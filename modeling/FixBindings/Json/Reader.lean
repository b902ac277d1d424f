import FixBindings.Document.Access

/-!
# Reading JSON

A reader of JSON texts.  Beyond the standard it takes `NaN`, `Infinity` and `-Infinity`, and of
two entries with one key the last value counts, in the place of the first.  A text that is no
JSON is refused with the cause and the place of the first offence; `Json.Fault.message` counts the
place in characters, lines and columns.
-/

set_option autoImplicit false

namespace FixBindings
namespace Json

/-- What is wrong with a text at some place. -/
inductive Cause where
  | byteOrderMark
  | value
  | propertyName
  | colon
  | comma
  | extraData
  | unterminatedText
  | controlCharacter
  | escape
  | hexEscape
deriving Repr, DecidableEq

/-- Why a text is not read. -/
inductive Fault where
  /-- The text is no JSON, for a cause at a place that is also given as line and column. -/
  | malformed (cause : Cause) (position line column : Nat)
  /-- An integer of the text has too many digits. -/
  | integerTooLong (digits : Nat)
deriving Repr, DecidableEq

/-- The text of a cause. -/
def Cause.message : Cause → String
  | .byteOrderMark => "Unexpected UTF-8 BOM (decode using utf-8-sig)"
  | .value => "Expecting value"
  | .propertyName => "Expecting property name enclosed in double quotes"
  | .colon => "Expecting ':' delimiter"
  | .comma => "Expecting ',' delimiter"
  | .extraData => "Extra data"
  | .unterminatedText => "Unterminated string starting at"
  | .controlCharacter => "Invalid control character at"
  | .escape => "Invalid \\escape"
  | .hexEscape => "Invalid \\uXXXX escape"

/-- The text of a fault. -/
def Fault.message : Fault → String
  | .malformed cause position line column =>
    cause.message ++ ": line " ++ toString line ++ " column " ++ toString column
      ++ " (char " ++ toString position ++ ")"
  | .integerTooLong digits => DocumentFault.tooLongMessage digits

/-- A place in a text: the characters from there on and the number of those before. -/
structure Cursor where
  rest : List Char
  position : Nat

/-- An offence found while reading: a cause with its place, or a number of digits. -/
inductive Offence where
  | at (cause : Cause) (position : Nat)
  | tooLong (digits : Nat)

/-- The result of reading some part of a text. -/
abbrev Reading (α : Type) := Except Offence (α × Cursor)

namespace Cursor

/-- The place some characters further on. -/
def skip (c : Cursor) (n : Nat) : Cursor := ⟨c.rest.drop n, c.position + n⟩

/-- Whether a character is white space between the parts of a text. -/
def isBlank (c : Char) : Bool := c == ' ' || c == '\t' || c == '\n' || c == '\r'

/-- The first place from here on that holds no white space. -/
def skipBlanks (c : Cursor) : Cursor := c.skip (c.rest.takeWhile isBlank).length

/-- Whether the text goes on with the given characters. -/
def startsWith (c : Cursor) (word : String) : Bool := word.toList.isPrefixOf c.rest

/-- An offence at this place. -/
def fail {α : Type} (c : Cursor) (cause : Cause) : Except Offence α := .error (.at cause c.position)

end Cursor

/-- The number that four hexadecimal digits spell, if there are so many and one more character. -/
def hexEscape? (cs : List Char) : Option Nat :=
  let digits := cs.take 4
  if digits.length < 4 ∨ (cs.drop 4).isEmpty then none
  else
    digits.foldl
      (fun n? c => do return (← n?) * 16 + (← Number.digitValue? 16 c)) (some 0)

/-- The character that a letter after a backslash stands for. -/
def shortEscape? : Char → Option Char
  | '\x22' => some '\x22'
  | '\\' => some '\\'
  | '/' => some '/'
  | 'b' => some '\x08'
  | 'f' => some '\x0c'
  | 'n' => some '\n'
  | 'r' => some '\r'
  | 't' => some '\t'
  | _ => none

/-- The character of a code unit.  A surrogate without its partner is no character, so that no text
can hold it: this is a limit of texts, and U+FFFD is read in its place. -/
def unitChar (n : Nat) : Char :=
  if 0xD800 ≤ n ∧ n < 0xE000 then '\uFFFD' else Char.ofNat n

/-- Whether a code unit is the first of a pair. -/
def isHighSurrogate (n : Nat) : Bool := decide (0xD800 ≤ n) && decide (n < 0xDC00)

/-- Whether a code unit is the second of a pair. -/
def isLowSurrogate (n : Nat) : Bool := decide (0xDC00 ≤ n) && decide (n < 0xE000)

/-- Reads the digits after `\u`, where `c` stands before the `u`, together with the second half
of a surrogate pair. -/
def readHexEscape (c : Cursor) : Reading Char :=
  match hexEscape? (c.rest.drop 1) with
  | none => c.fail .hexEscape
  | some n =>
    let after := c.skip 5
    match after.rest with
    | '\\' :: 'u' :: digits =>
      if isHighSurrogate n && decide (4 < digits.length) then
        match hexEscape? digits with
        | none => (after.skip 1).fail .hexEscape
        | some m =>
          if isLowSurrogate m then
            .ok (Char.ofNat (0x10000 + (n - 0xD800) * 0x400 + (m - 0xDC00)), after.skip 6)
          else .ok (unitChar n, after)
      else .ok (unitChar n, after)
    | _ => .ok (unitChar n, after)

/-- Reads the characters of a text after its opening mark, which stands at `start`. -/
def readChars (start : Nat) : Nat → Cursor → List Char → Reading String
  | 0, _, _ => .error (.at .unterminatedText start)
  | fuel + 1, c, chars =>
    match c.rest with
    | [] => .error (.at .unterminatedText start)
    | '\x22' :: _ => .ok (String.ofList chars.reverse, c.skip 1)
    | '\\' :: [] => .error (.at .unterminatedText start)
    | '\\' :: 'u' :: _ =>
      match readHexEscape (c.skip 1) with
      | .error e => .error e
      | .ok (x, c') => readChars start fuel c' (x :: chars)
    | '\\' :: x :: _ =>
      match shortEscape? x with
      | some y => readChars start fuel (c.skip 2) (y :: chars)
      | none => c.fail .escape
    | x :: _ =>
      if x.toNat < 0x20 then c.fail .controlCharacter
      else readChars start fuel (c.skip 1) (x :: chars)

/-- Reads a text from its opening mark on. -/
def readText (c : Cursor) : Reading String :=
  readChars c.position (c.rest.length + 1) (c.skip 1) []

/-- The whole part of a number, its sign included. -/
def wholeDigits? (cs : List Char) : Option (List Char × List Char) :=
  let (sign, cs) :=
    match cs with
    | '-' :: rest => (['-'], rest)
    | _ => ([], cs)
  match cs with
  | '0' :: rest => some (sign ++ ['0'], rest)
  | c :: _ => if c.isDigit then
      let (digits, rest) := Number.splitDigits cs
      some (sign ++ digits, rest)
    else none
  | [] => none

/-- The fraction of a number: a point and at least one digit, if they are there. -/
def fractionDigits (cs : List Char) : List Char × List Char :=
  match cs with
  | '.' :: rest =>
    let (digits, rest') := Number.splitDigits rest
    if digits.isEmpty then ([], cs) else ('.' :: digits, rest')
  | _ => ([], cs)

/-- The exponent of a number: its letter, a sign and at least one digit, if they are there. -/
def exponentDigits (cs : List Char) : List Char × List Char :=
  match cs with
  | e :: rest =>
    if e == 'e' || e == 'E' then
      let (sign, rest) :=
        match rest with
        | s :: after => if s == '+' || s == '-' then ([s], after) else ([], rest)
        | [] => ([], rest)
      let (digits, rest) := Number.splitDigits rest
      if digits.isEmpty then ([], cs) else (e :: (sign ++ digits), rest)
    else ([], cs)
  | [] => ([], cs)

/-- Reads a number. -/
def readNumber (c : Cursor) : Reading Document :=
  match wholeDigits? c.rest with
  | none => c.fail .value
  | some (whole, rest) =>
    let (fraction, rest) := fractionDigits rest
    let (exponent, _) := exponentDigits rest
    let literal := String.ofList (whole ++ fraction ++ exponent)
    let next := c.skip (whole.length + fraction.length + exponent.length)
    if fraction.isEmpty && exponent.isEmpty then
      match Number.readInteger 10 literal with
      | .ok n => .ok (.int n, next)
      | .error (.tooLong digits) => .error (.tooLong digits)
      | .error .notLiteral => c.fail .value
    else
      match Number.readReal? literal with
      | some x => .ok (.real x, next)
      | none => c.fail .value

/-- The words that stand for values. -/
def words : List (String × Document) :=
  [("null", .null), ("true", .bool true), ("false", .bool false),
   ("NaN", .real (Number.realOfBits false (Number.infiniteBits + Nat.pow 2 51))),
   ("Infinity", .real (Number.realOfBits false Number.infiniteBits)),
   ("-Infinity", .real (Number.realOfBits true Number.infiniteBits))]

/-- Reads a value that holds no other values. -/
def readScalar (c : Cursor) : Reading Document :=
  match words.find? fun w => c.startsWith w.1 with
  | some (word, d) => .ok (d, c.skip word.length)
  | none => readNumber c

mutual

/-- Reads a value. -/
def readValue : Nat → Cursor → Reading Document
  | 0, c => c.fail .value
  | fuel + 1, c =>
    match c.rest with
    | '\x22' :: _ =>
      match readText c with
      | .error e => .error e
      | .ok (s, c') => .ok (.text s, c')
    | '[' :: _ =>
      let c := (c.skip 1).skipBlanks
      if c.startsWith "]" then .ok (.seq [], c.skip 1) else readItems fuel c []
    | '\x7b' :: _ =>
      let c := (c.skip 1).skipBlanks
      if c.startsWith "\x7d" then .ok (.map [], c.skip 1) else readEntries fuel c []
    | _ => readScalar c

/-- Reads the items of an array up to its end. -/
def readItems : Nat → Cursor → List Document → Reading Document
  | 0, c, _ => c.fail .value
  | fuel + 1, c, items =>
    match readValue fuel c with
    | .error e => .error e
    | .ok (d, c) =>
      let c := c.skipBlanks
      if c.startsWith "]" then .ok (.seq (d :: items).reverse, c.skip 1)
      else if c.startsWith "," then readItems fuel (c.skip 1).skipBlanks (d :: items)
      else c.fail .comma

/-- Reads the entries of an object up to its end. -/
def readEntries : Nat → Cursor → List (Document × Document) → Reading Document
  | 0, c, _ => c.fail .value
  | fuel + 1, c, entries =>
    if !c.startsWith "\x22" then c.fail .propertyName
    else
      match readText c with
      | .error e => .error e
      | .ok (key, c) =>
        let c := c.skipBlanks
        if !c.startsWith ":" then c.fail .colon
        else
          match readValue fuel (c.skip 1).skipBlanks with
          | .error e => .error e
          | .ok (d, c) =>
            let entries := Document.insertEntry entries (.text key) d
            let c := c.skipBlanks
            if c.startsWith "\x7d" then .ok (.map entries, c.skip 1)
            else if c.startsWith "," then readEntries fuel (c.skip 1).skipBlanks entries
            else c.fail .comma

end

/-- Reads the one value of a text. -/
def readWhole (cs : List Char) : Except Offence Document := do
  let start : Cursor := ⟨cs, 0⟩
  if start.startsWith "\uFEFF" then start.fail .byteOrderMark
  let (d, c) ← readValue (2 * cs.length + 2) start.skipBlanks
  let c := c.skipBlanks
  if c.rest.isEmpty then return d else c.fail .extraData

/-- The fault of an offence in a text. -/
def Offence.fault (cs : List Char) : Offence → Fault
  | .tooLong digits => .integerTooLong digits
  | .at cause position =>
    let before := cs.take position
    .malformed cause position (before.count '\n' + 1)
      ((before.reverse.takeWhile (· != '\n')).length + 1)

/-- Reads a JSON text. -/
def read (s : String) : Except Fault Document :=
  (readWhole s.toList).mapError (Offence.fault s.toList)

end Json
end FixBindings
