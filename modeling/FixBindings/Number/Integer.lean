import FixBindings.Unicode.Class

/-!
# Reading integers

An integer literal is an optional sign and digits of any decimal script, with single underscores
between digits and white space around the whole.  Bases two, eight and sixteen take letters as
digits and may open with their marker `0b`, `0o` or `0x`.  A literal in base ten has at most
`maxDigits` digits; the other bases have no limit.
-/

set_option autoImplicit false

namespace FixBindings
namespace Number

/-- The number of decimal digits beyond which no integer is read.  For what is written the limit is
kept to only where a document is taken for a text, which is then a fault of the document
(`Document.checkWritten`).  Diagnostics, sources and data files are written with integers of any
length. -/
def maxDigits : Nat := 4300

/-- Whether an integer has more than `maxDigits` decimal digits. -/
def isLong (n : Int) : Bool := decide (maxDigits < (Nat.toDigits 10 n.natAbs).length)

/-- Why a text is no integer. -/
inductive IntegerFault where
  /-- The text is no literal of the base. -/
  | notLiteral
  /-- The literal has more digits than are read. -/
  | tooLong (digits : Nat)
deriving Repr, DecidableEq

/-- White space of ASCII: tab, line feed, vertical tab, form feed, carriage return, space. -/
def isAsciiBlank (c : Char) : Bool :=
  c == ' ' || (decide (9 ≤ c.toNat) && decide (c.toNat ≤ 13))

/-- A character as literals see it: wide blanks are spaces, decimal digits of every script are
ASCII digits, and any other character beyond ASCII stands for no digit. -/
def plainChar (c : Char) : Char :=
  if c.toNat < 0x7F then c
  else if Unicode.isWideBlank c then ' '
  else
    match Unicode.decimalValue? c with
    | some d => Char.ofNat (0x30 + d)
    | none => '?'

/-- The value of a digit, letters of either case standing for ten and up. -/
def digitValue? (base : Nat) (c : Char) : Option Nat :=
  let v? :=
    if c.isDigit then some (c.toNat - 0x30)
    else if c.isLower then some (c.toNat - 0x61 + 10)
    else if c.isUpper then some (c.toNat - 0x41 + 10)
    else none
  v?.filter (· < base)

/-- The longest run of digits and underscores: its digit values, whether an underscore stands
where none may, and the rest. -/
def scanDigits (base : Nat) : Bool → List Char → List Nat × Bool × List Char
  | afterDigit, [] => ([], !afterDigit, [])
  | afterDigit, c :: rest =>
    match digitValue? base c with
    | some d =>
      let r := scanDigits base true rest
      (d :: r.1, r.2)
    | none =>
      if c == '_' then
        if afterDigit then scanDigits base false rest else ([], true, c :: rest)
      else ([], !afterDigit, c :: rest)

/-- The marker letter that may follow a leading zero. -/
def baseMarker? : Nat → Option Char
  | 2 => some 'b'
  | 8 => some 'o'
  | 16 => some 'x'
  | _ => none

/-- Drops the marker of a base, and one underscore after it. -/
def dropMarker (base : Nat) (cs : List Char) : List Char :=
  match cs with
  | '0' :: m :: rest =>
    if baseMarker? base == some m.toLower then
      match rest with
      | '_' :: rest' => rest'
      | _ => rest
    else cs
  | _ => cs

/-- Splits off a sign; `true` stands for minus. -/
def splitSign : List Char → Bool × List Char
  | '-' :: rest => (true, rest)
  | '+' :: rest => (false, rest)
  | cs => (false, cs)

/-- The number that digits spell, most significant first. -/
def ofDigits (base : Nat) (digits : List Nat) : Nat :=
  digits.foldl (fun n d => n * base + d) 0

/-- Reads an integer literal. -/
def readInteger (base : Nat) (s : String) : Except IntegerFault Int :=
  let cs := (s.toList.map plainChar).dropWhile isAsciiBlank
  let (negative, cs) := splitSign cs
  let (digits, misplaced, rest) := scanDigits base false (dropMarker base cs)
  if misplaced then
    .error .notLiteral
  else if base == 10 && decide (maxDigits < digits.length) then
    .error (.tooLong digits.length)
  else if rest.all isAsciiBlank then
    .ok (if negative then -(ofDigits base digits : Int) else ofDigits base digits)
  else
    .error .notLiteral

end Number
end FixBindings
