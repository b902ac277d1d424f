import FixBindings.Xml.Doctype
import FixBindings.Xml.Namespace
import FixBindings.Xml.Declaration

/-!
# Reading XML

A well-formed text as a tree of elements: the declaration, the document type, and then the markup
of the content, whose tags are put together on a stack of open elements.  Names are resolved where
their elements are opened.
-/

set_option autoImplicit false

namespace FixBindings
namespace Xml

/-- An element that is not yet closed. -/
structure OpenElement where
  /-- The name as it is written, which the closing tag repeats. -/
  tag : String
  name : Name
  attributes : List (Name × String)
  /-- The elements within, the last one first. -/
  children : List Element := []
  scope : Scope
deriving Inhabited

/-- A tree while it is put together. -/
structure Builder where
  /-- The open elements, the innermost first. -/
  stack : List OpenElement := []
  root : Option Element := none
deriving Inhabited

/-! ## Attributes -/

/-- Whether something comes twice. -/
def hasRepetition {α : Type} [BEq α] : List α → Bool
  | [] => false
  | a :: rest => rest.contains a || hasRepetition rest

/-- The values of the attributes of an element, with those that the document type adds. -/
def attributeValues (d : Doctype) (element : String) (attributes : List (String × List Char)) :
    Expansion (List (String × String)) := do
  let rules := d.rulesOf element
  let given ← attributes.mapM fun (name, text) => do
    let value ← valueOf d.entities d.entities.depth text
    let keepsSpaces := ((rules.find? (·.name == name)).map AttributeRule.keepsSpaces).getD true
    return (name, String.ofList (if keepsSpaces then value else collapseSpaces value))
  let added := rules.filterMap fun rule =>
    if attributes.any (·.1 == rule.name) then none
    else rule.value.map fun value => (rule.name, value)
  return given ++ added

/-- The scope within an element, and the attributes that declare no namespaces. -/
def resolveAttributes (scope : Scope) (attributes : List (String × String)) :
    Reading (Scope × List (Name × String)) := do
  let scope ← attributes.foldlM
    (fun scope (name, value) =>
      match declaredPrefix? name with
      | some label => bindPrefix scope label value
      | none => .ok scope) scope
  let resolved ← (attributes.filter fun a => (declaredPrefix? a.1).isNone).mapM
    fun (name, value) => do return (← attributeName scope name, value)
  if hasRepetition (resolved.map Prod.fst) then throw .repeatedAttribute
  return (scope, resolved)

/-! ## Tags -/

namespace Builder

/-- The scope at the place of a builder. -/
def scope (b : Builder) : Scope := (b.stack.head?.map OpenElement.scope).getD outerScope

/-- Opens an element. -/
def openElement (d : Doctype) (b : Builder) (tag : String)
    (attributes : List (String × List Char)) : Expansion Builder := do
  if b.stack.isEmpty && b.root.isSome then throw .nesting
  if hasRepetition (attributes.map Prod.fst) then throw .repeatedAttribute
  let (scope, resolved) ← resolveAttributes b.scope (← attributeValues d tag attributes)
  let name ← elementName scope tag
  return { b with stack := { tag, name, attributes := resolved, scope } :: b.stack }

/-- Closes the innermost element. -/
def closeElement (b : Builder) (tag : String) : Reading Builder :=
  match b.stack with
  | [] => .error .nesting
  | e :: stack =>
    if e.tag != tag then .error .nesting
    else
      let element := Element.node e.name e.attributes e.children.reverse
      match stack with
      | [] => .ok { stack := [], root := some element }
      | parent :: stack =>
        .ok { b with stack := { parent with children := element :: parent.children } :: stack }

/-- Takes in a part of the content. -/
def take (d : Doctype) (b : Builder) : Markup → Expansion Builder
  | .opening tag attributes => b.openElement d tag attributes
  | .closing tag => b.closeElement tag
  | .characters blank => if blank || !b.stack.isEmpty then pure b else throw .nesting
  | .reference _ => throw .reference

end Builder

/-- Reads the characters of a document. -/
def document (cs : List Char) : Expansion Element := do
  let (declaration, cs) ← declarationOf cs
  let start : Doctype := { standalone := declaration.standalone == some true }
  let (d, cs) ← prologue (cs.length + 1) false start cs
  let markup ← expand d.entities d.entities.depth (← content cs)
  let b ← markup.foldlM (Builder.take d) {}
  match b.stack, b.root with
  | [], some root => return root
  | _, _ => throw .nesting

/-- Reads a text.  A byte order mark in front is passed over. -/
def read (text : String) : Reading Element := do
  let cs := text.toList
  let cs := if cs.head? == some '\uFEFF' then cs.drop 1 else cs
  if !cs.all isLegal then throw .character
  let (root, _) ← (document (joinLines cs)).run (growthOf cs.length)
  return root

end Xml
end FixBindings
