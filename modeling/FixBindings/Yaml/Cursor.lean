import FixBindings.Yaml.Fault

/-!
# Places in YAML texts

A cursor is the rest of a text with the number of characters, of lines, and of characters of the
line before it.  Lines end at line feeds, carriage returns, both together, and at the breaks that
Unicode adds.
-/

set_option autoImplicit false

namespace FixBindings
namespace Yaml

/-- A place in a text. -/
structure Cursor where
  rest : List Char
  index : Nat := 0
  line : Nat := 0
  column : Nat := 0
deriving Inhabited

/-- Whether a character may stand in a text. -/
def isPrintable (c : Char) : Bool :=
  let n := c.toNat
  n == 0x09 || n == 0x0A || n == 0x0D || (decide (0x20 ≤ n) && decide (n ≤ 0x7E)) || n == 0x85
    || (decide (0xA0 ≤ n) && decide (n ≤ 0xFFFD)) || decide (0x10000 ≤ n)

/-- Whether a character ends a line. -/
def isBreak (c : Char) : Bool :=
  c == '\n' || c == '\r' || c == '\u0085' || c == '\u2028' || c == '\u2029'

/-- Whether a character may stand in a name. -/
def isWordChar (c : Char) : Bool := c.isAlphanum || c == '-' || c == '_'

/-- The value of a hexadecimal digit. -/
def hexValue? (c : Char) : Option Nat := Number.digitValue? 16 c

namespace Cursor

/-- The character here, if the text goes on. -/
def peek (c : Cursor) : Option Char := c.rest.head?

/-- The character some places further on. -/
def peekAt (c : Cursor) (n : Nat) : Option Char := (c.rest.drop n).head?

/-- The place after one character. -/
def next (c : Cursor) : Cursor :=
  match c.rest with
  | [] => c
  | x :: rest =>
    if x == '\n' || x == '\u0085' || x == '\u2028' || x == '\u2029'
        || (x == '\r' && rest.head? != some '\n') then
      { rest, index := c.index + 1, line := c.line + 1, column := 0 }
    else
      { rest, index := c.index + 1, line := c.line,
        column := if x == '\uFEFF' then c.column else c.column + 1 }

/-- The place after some characters. -/
def advance (c : Cursor) : Nat → Cursor
  | 0 => c
  | n + 1 => c.next.advance n

/-- Whether the text ends here or the character here is one of some. -/
def endsOr (c : Cursor) (p : Char → Bool) : Bool := c.peek.all p

/-- Whether a blank, a break or the end of the text is at some distance. -/
def blankAt (c : Cursor) (n : Nat) : Bool :=
  (c.peekAt n).all fun x => x == ' ' || x == '\t' || isBreak x

/-- The characters in front that satisfy a condition. -/
def run (c : Cursor) (p : Char → Bool) : List Char := c.rest.takeWhile p

/-- The place after the characters in front that satisfy a condition. -/
def skipWhile (c : Cursor) (p : Char → Bool) : Cursor := c.advance (c.run p).length

/-- The place after the spaces in front. -/
def skipSpaces (c : Cursor) : Cursor := c.skipWhile (· == ' ')

/-- The place after a comment, if one is here. -/
def skipComment (c : Cursor) : Cursor :=
  if c.peek == some '#' then c.skipWhile (!isBreak ·) else c

/-- Reads a line break, if one is here: its text and the place after it.  The common breaks all
count as a line feed. -/
def lineBreak (c : Cursor) : List Char × Cursor :=
  match c.rest with
  | '\r' :: '\n' :: _ => (['\n'], c.advance 2)
  | x :: _ =>
    if x == '\r' || x == '\n' || x == '\u0085' then (['\n'], c.next)
    else if isBreak x then ([x], c.next)
    else ([], c)
  | [] => ([], c)

/-- Whether a line here separates documents: three hyphens or points with a blank after them. -/
def atSeparator (c : Cursor) : Bool :=
  (c.rest.take 3 == ['-', '-', '-'] || c.rest.take 3 == ['.', '.', '.']) && c.blankAt 3

/-- The place after the rest of a line that holds nothing but a comment. -/
def skipRestOfLine (c : Cursor) (cause : Malformation) : Reading Cursor :=
  let c := c.skipSpaces.skipComment
  if c.endsOr isBreak then .ok c.lineBreak.2 else refuse cause

end Cursor
end Yaml
end FixBindings
