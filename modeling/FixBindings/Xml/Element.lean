/-!
# Element trees

What an XML document says, without its text: elements with their names, attributes and children.
A name is a local name that may belong to a namespace.
-/

set_option autoImplicit false

namespace FixBindings
namespace Xml

/-- The name of an element or attribute. -/
structure Name where
  space : Option String := none
  localName : String
deriving Repr, DecidableEq, Inhabited

/-- An element. -/
inductive Element where
  | node (name : Name) (attributes : List (Name × String)) (children : List Element)
deriving Repr, Inhabited

namespace Element

/-- The name of an element. -/
def name : Element → Name
  | .node name _ _ => name

/-- The local name of an element. -/
def localName (e : Element) : String := e.name.localName

/-- The attributes of an element. -/
def attributes : Element → List (Name × String)
  | .node _ attributes _ => attributes

/-- The elements within an element, in order. -/
def children : Element → List Element
  | .node _ _ children => children

/-- The value of an attribute that belongs to no namespace. -/
def attribute? (e : Element) (name : String) : Option String :=
  e.attributes.lookup ⟨none, name⟩

/-- The children of a local name, in any namespace. -/
def childrenNamed (e : Element) (localName : String) : List Element :=
  e.children.filter fun child => child.localName == localName

/-- The first child of a local name, in any namespace. -/
def child? (e : Element) (localName : String) : Option Element :=
  (e.childrenNamed localName).head?

end Element
end Xml
end FixBindings
