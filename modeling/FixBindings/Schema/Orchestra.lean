import FixBindings.Document.Access
import FixBindings.Schema.Basic
import FixBindings.Unicode.Class
import FixBindings.Xml.Element

/-!
# Repositories as element trees

An Orchestra document is a `repository` element with sections for code sets, fields, components,
groups and messages.  Elements are told by their local names, so any namespace will do, and what
is not looked for is passed over.
-/

set_option autoImplicit false

namespace FixBindings
namespace Orchestra

open Xml (Element)

/-- Why an element tree is no repository. -/
inductive Fault where
  /-- The root is another element. -/
  | root (name : String)
  | missingAttribute (element key : String)
  /-- An attribute that should be an integer is something else. -/
  | notInteger (element key raw : String)
  /-- A group has no counter; its name is quoted. -/
  | noCounter (quoted : String)
  /-- An id of digits is no integer. -/
  | document (fault : DocumentFault)
deriving Repr, DecidableEq

/-- The text of a fault. -/
def Fault.message : Fault → String
  | .root name => "Expected <repository> root element, got <" ++ name ++ ">"
  | .missingAttribute element key =>
    "<" ++ element ++ "> is missing required attribute '" ++ key ++ "'"
  | .notInteger element key raw =>
    "<" ++ element ++ "> attribute '" ++ key ++ "' is not an integer: " ++ raw
  | .noCounter quoted => "<group name=" ++ quoted ++ "> has no numInGroup"
  | .document fault => fault.message

/-- The result of reading a part of a repository. -/
abbrev Reading (α : Type) := Except Fault α

/-- An attribute that has to be there. -/
def required (e : Element) (key : String) : Reading String :=
  match e.attribute? key with
  | some value => .ok value
  | none => .error (.missingAttribute e.localName key)

/-- An attribute that has to be an integer. -/
def requiredInteger (e : Element) (key : String) : Reading Int := do
  let raw ← required e key
  match Number.readInteger 10 raw with
  | .ok n => return n
  | .error _ => throw (.notInteger e.localName key raw)

/-- Whether a text is made of digits. -/
def isDigits (s : String) : Bool := !s.isEmpty && s.toList.all Unicode.isDigit

/-- An id that counts only if it is made of digits. -/
def optionalId (e : Element) : Reading Document :=
  match e.attribute? "id" with
  | none => .ok .null
  | some raw =>
    if isDigits raw then
      match Document.readInteger raw (Quoted.text raw) with
      | .ok n => .ok (.int n)
      | .error fault => .error (.document fault)
    else .ok .null

/-- An attribute as a document, with a text that stands in for a missing one. -/
def attributeD (e : Element) (key default : String) : Document :=
  .text ((e.attribute? key).getD default)

/-- The member that an element refers to, if it is a reference. -/
def memberOf? (localName : String) : Option (Int → Member) :=
  match localName with
  | "fieldRef" => some .field
  | "groupRef" => some .group
  | "componentRef" => some .component
  | _ => none

/-- The members that are children of an element. -/
def members : List Element → Reading (List Member)
  | [] => .ok []
  | e :: rest =>
    match memberOf? e.localName with
    | none => members rest
    | some member => do
      let id ← requiredInteger e "id"
      return member id :: (← members rest)

/-- Reads a code. -/
def code (e : Element) : Reading Code := do
  let name ← required e "name"
  let value ← required e "value"
  let id ← optionalId e
  return { name := .text name, value, id }

/-- Reads a code set. -/
def codeSet (e : Element) : Reading CodeSet := do
  let codes ← (e.childrenNamed "code").mapM code
  let name ← required e "name"
  let id ← optionalId e
  return { name := .text name, type := attributeD e "type" "String", codes, id }

/-- Reads a field. -/
def field (e : Element) : Reading Field := do
  let id ← requiredInteger e "id"
  let name ← required e "name"
  return { id, name := .text name, type := attributeD e "type" "String" }

/-- Reads a component. -/
def component (e : Element) : Reading Component := do
  let id ← requiredInteger e "id"
  let name ← required e "name"
  return { id, name := .text name, members := ← members e.children }

/-- The name of a group as a message shows it. -/
def quotedName (e : Element) : String :=
  ((e.attribute? "name").map Quoted.text).getD "None"

/-- Reads a group. -/
def group (e : Element) : Reading Group := do
  match e.child? "numInGroup" with
  | none => throw (.noCounter (quotedName e))
  | some counterElement =>
    let id ← requiredInteger e "id"
    let name ← required e "name"
    let counter ← requiredInteger counterElement "id"
    return { id, name := .text name, counter, members := ← members e.children }

/-- Reads a message. -/
def message (e : Element) : Reading Message := do
  let name ← required e "name"
  let members ← members ((e.child? "structure").map Element.children |>.getD [])
  let id ← optionalId e
  return {
    name := .text name
    msgType := (e.attribute? "msgType").getD ""
    category := attributeD e "category" ""
    scenario := attributeD e "scenario" baseScenario
    members, id }

/-- The items of a section, which may be missing. -/
def sectionItems (root : Element) (name item : String) : List Element :=
  ((root.child? name).map fun e => e.childrenNamed item).getD []

/-- Reads a repository. -/
def repository (root : Element) : Reading Repository := do
  if root.localName != "repository" then throw (.root root.localName)
  let codeSets ← (sectionItems root "codeSets" "codeSet").mapM codeSet
  let fields ← (sectionItems root "fields" "field").mapM field
  let components ← (sectionItems root "components" "component").mapM component
  let groups ← (sectionItems root "groups" "group").mapM group
  let messages ← (sectionItems root "messages" "message").mapM message
  return {
    name := attributeD root "name" ""
    version := (root.attribute? "version").getD ""
    fields, codeSets, components, groups, messages }

end Orchestra
end FixBindings
