/-!
# Faults of XML texts

The reasons for which a text is no well-formed XML document.
-/

set_option autoImplicit false

namespace FixBindings
namespace Xml

/-- Why a text is not read. -/
inductive Fault where
  /-- Octets that are no text in the encoding of the document. -/
  | encoding
  /-- A character that no document may hold. -/
  | character
  /-- The declaration at the beginning of a document. -/
  | declaration
  /-- The declaration of the document type. -/
  | doctype
  /-- A name that is none. -/
  | name
  /-- A comment, instruction or section of characters that does not end as it should. -/
  | unterminated
  /-- A tag. -/
  | tag
  /-- The end of a section of characters where none is open. -/
  | sectionEnd
  /-- A reference to a character or an entity. -/
  | reference
  /-- An entity that refers to itself, or that grows out of proportion. -/
  | expansion
  /-- The tags of an entity do not pair up. -/
  | unbalanced
  /-- Two attributes of one name. -/
  | repeatedAttribute
  /-- A namespace that may not be declared. -/
  | namespaceDeclaration
  /-- A name whose namespace is not declared. -/
  | undeclaredNamespace
  /-- A tag that closes another element, or something outside of the root element. -/
  | nesting
deriving Repr, DecidableEq

/-- The result of reading a part of a text. -/
abbrev Reading (α : Type) := Except Fault α

end Xml
end FixBindings
