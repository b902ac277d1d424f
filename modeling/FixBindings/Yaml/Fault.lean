import FixBindings.Calendar
import FixBindings.Document.Access

/-!
# Faults of YAML texts

A text is refused because it is malformed, or because the text of a scalar does not fit its tag.
-/

set_option autoImplicit false

namespace FixBindings
namespace Yaml

/-- What is wrong with a malformed text. -/
inductive Malformation where
  /-- A character that no text may hold. -/
  | unprintable
  /-- A character that begins no token. -/
  | token
  /-- A key that has to end on its line goes on, or a value has no key. -/
  | simpleKey
  /-- An entry, a key or a value where none may stand. -/
  | misplaced
  | directive
  | anchor
  | tag
  | blockHeader
  | unterminated
  | escape
  /-- A closing bracket without its partner. -/
  | unbalanced
  /-- A token that is no content of a node. -/
  | content
  /-- A collection that does not end where it should. -/
  | collectionEnd
  | documentStart
  | severalDocuments
  | unknownHandle
  | unknownAlias
  | repeatedAnchor
  /-- A tag without a meaning. -/
  | unknownTag
  /-- A node of another kind than its tag asks for. -/
  | nodeKind
  | merge
  | unhashableKey
  | binary
deriving Repr, DecidableEq

/-- Why a text is not read. -/
inductive Fault where
  | malformed (cause : Malformation)
  /-- A text is no integer of its base; the text is quoted. -/
  | integerLiteral (base : Nat) (quoted : String)
  | integerTooLong (digits : Nat)
  /-- A text is no real number; the text is quoted. -/
  | realLiteral (quoted : String)
  /-- A number has no characters. -/
  | emptyNumber
  /-- A word is no truth value. -/
  | truth (word : String)
  | notTimestamp
  | calendar (fault : Calendar.Fault)
  /-- The number of a character is beyond the last one. -/
  | character
  /-- The number of a character is beyond the numbers of characters by far. -/
  | hugeCharacter
deriving Repr, DecidableEq

/-- The text of a fault. -/
def Fault.message : Fault → String
  | .malformed _ => ""
  | .integerLiteral base quoted =>
    "invalid literal for int() with base " ++ toString base ++ ": "
      ++ Document.shownLiteral quoted
  | .integerTooLong digits => DocumentFault.tooLongMessage digits
  | .realLiteral quoted => "could not convert string to float: " ++ quoted
  | .emptyNumber => "string index out of range"
  | .truth word => Quoted.text word
  | .notTimestamp => "'NoneType' object has no attribute 'groupdict'"
  | .calendar fault => fault.message
  | .character => "chr() arg not in range(0x110000)"
  | .hugeCharacter => "Python int too large to convert to C int"

/-- The result of reading a part of a text. -/
abbrev Reading (α : Type) := Except Fault α

/-- Refuses a text. -/
def refuse {α : Type} (cause : Malformation) : Reading α := .error (.malformed cause)

end Yaml
end FixBindings
