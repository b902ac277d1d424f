import FixBindings.Xml.Element
import FixBindings.Xml.Lexeme

/-!
# Namespaces of XML texts

Attributes of elements declare prefixes and a default namespace for the element and all within it.
A scope holds the declarations that count at a place, the innermost first.  Two prefixes are
reserved, and so are their namespaces.
-/

set_option autoImplicit false

namespace FixBindings
namespace Xml

/-- The namespaces of prefixes.  The empty prefix stands for the default namespace, which need not
be there. -/
abbrev Scope := List (String × Option String)

/-- The namespace of the prefix `xml`. -/
def xmlSpace : String := "http://www.w3.org/XML/1998/namespace"

/-- The namespace of the prefix `xmlns`. -/
def declarationSpace : String := "http://www.w3.org/2000/xmlns/"

/-- The scope of a root element. -/
def outerScope : Scope := [("xml", some xmlSpace)]

/-- The prefix that an attribute declares, if it declares one. -/
def declaredPrefix? (attributeName : String) : Option String :=
  match splitName attributeName with
  | (none, "xmlns") => some ""
  | (some "xmlns", label) => some label
  | _ => none

/-- Whether the name of a namespace may not be declared: no name holds a closing brace. -/
def isBadSpace (space : String) : Bool := space.toList.contains '\x7d'

/-- Declares a prefix.  Only the default namespace may be empty, which takes it away. -/
def bindPrefix (scope : Scope) (label space : String) : Reading Scope := do
  if space.isEmpty && label != "" then throw .namespaceDeclaration
  if label == "xmlns" || isBadSpace space then throw .namespaceDeclaration
  if (label == "xml") != (space == xmlSpace) then throw .namespaceDeclaration
  if space == declarationSpace then throw .namespaceDeclaration
  return (label, if space.isEmpty then none else some space) :: scope

/-- The name of an element. -/
def elementName (scope : Scope) (name : String) : Reading Name :=
  match splitName name with
  | (none, localName) => .ok ⟨(scope.lookup "").join, localName⟩
  | (some label, localName) =>
    match (scope.lookup label).join with
    | some space => .ok ⟨some space, localName⟩
    | none => .error .undeclaredNamespace

/-- The name of an attribute, which the default namespace does not concern. -/
def attributeName (scope : Scope) (name : String) : Reading Name :=
  match splitName name with
  | (none, localName) => .ok ⟨none, localName⟩
  | (some label, localName) =>
    match (scope.lookup label).join with
    | some space => .ok ⟨some space, localName⟩
    | none => .error .undeclaredNamespace

end Xml
end FixBindings
