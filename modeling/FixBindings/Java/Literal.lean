import FixBindings.Artifact.Basic

/-!
# Java literals

Texts, characters and other values as Java writes them.  A backslash and a double quotation mark
in a text are escaped; a character literal escapes a lone backslash and a lone apostrophe.
-/

set_option autoImplicit false

namespace FixBindings
namespace Java

/-- One character of a text literal. -/
def escapeChar (c : Char) : List Char :=
  if c == '\\' || c == '\x22' then ['\\', c] else [c]

/-- The inside of a text literal. -/
def escapeText (s : String) : String := String.ofList (s.toList.flatMap escapeChar)

/-- A text literal. -/
def textLiteral (s : String) : String := "\x22" ++ escapeText s ++ "\x22"

/-- A character literal. -/
def charLiteral (s : String) : String :=
  "'" ++ (if s == "\\" || s == "'" then "\\" ++ s else s) ++ "'"

/-- The literal of a constant. -/
def constantLiteral : ConstantValue → String
  | .boolean b => if b then "true" else "false"
  | .char s => charLiteral s
  | .int s => s
  | .string s => textLiteral s

/-- The inside of an array of integers, with a comma after each. -/
def arrayItems (ids : List Int) : String :=
  String.join (ids.map fun id => toString id ++ ", ")

end Java
end FixBindings
