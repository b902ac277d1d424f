import FixBindings.Document.Basic
import FixBindings.Number.Integer
import FixBindings.Unicode.Class

/-!
# The text of documents

`Document.display` is the text that a document stands for where a text is wanted, and
`Document.quoted` the text that spells it out.  They differ in texts and timestamps only: a text
displays as itself and is quoted between quotation marks with everything unprintable escaped.
Single quotation marks are the rule; a text with single and without double ones takes double ones.
-/

set_option autoImplicit false

namespace FixBindings

namespace Quoted

/-- A number in lower case hexadecimal digits, at least `width` of them. -/
def hex (width n : Nat) : List Char :=
  let digits := Nat.toDigits 16 n
  List.replicate (width - digits.length) '0' ++ digits

/-- The quotation mark for some characters. -/
def mark (cs : List Char) : Char :=
  if cs.contains '\'' && !cs.contains '\x22' then '\x22' else '\''

/-- One character between the given quotation marks. -/
def charText (mark c : Char) : List Char :=
  if c == mark || c == '\\' then ['\\', c]
  else if c == '\n' then ['\\', 'n']
  else if c == '\r' then ['\\', 'r']
  else if c == '\t' then ['\\', 't']
  else if Unicode.isPrintable c then [c]
  else if c.toNat ≤ 0xFF then '\\' :: 'x' :: hex 2 c.toNat
  else if c.toNat ≤ 0xFFFF then '\\' :: 'u' :: hex 4 c.toNat
  else '\\' :: 'U' :: hex 8 c.toNat

/-- One octet between the given quotation marks. -/
def octetText (mark : Char) (b : UInt8) : List Char :=
  let c := Char.ofNat b.toNat
  if c == mark || c == '\\' then ['\\', c]
  else if c == '\n' then ['\\', 'n']
  else if c == '\r' then ['\\', 'r']
  else if c == '\t' then ['\\', 't']
  else if 0x20 ≤ c.toNat ∧ c.toNat < 0x7F then [c]
  else '\\' :: 'x' :: hex 2 c.toNat

/-- A text between quotation marks. -/
def text (s : String) : String :=
  let cs := s.toList
  let q := mark cs
  String.ofList (q :: (cs.flatMap (charText q) ++ [q]))

/-- Octets between quotation marks. -/
def octets (bs : List UInt8) : String :=
  let q := mark (bs.map fun b => Char.ofNat b.toNat)
  String.ofList ('b' :: q :: (bs.flatMap (octetText q) ++ [q]))

end Quoted

namespace Document

mutual

/-- A document spelled out. -/
def quoted : Document → String
  | .null => "None"
  | .bool b => if b then "True" else "False"
  | .int n => toString n
  | .real x => Number.realText x
  | .text s => Quoted.text s
  | .bytes octets => Quoted.octets octets
  | .date d => d.quoted
  | .timestamp t => t.quoted
  | .seq items => "[" ++ String.intercalate ", " (quotedItems items) ++ "]"
  | .pair k v => "(" ++ k.quoted ++ ", " ++ v.quoted ++ ")"
  | .map entries => "\x7b" ++ String.intercalate ", " (quotedEntries entries) ++ "\x7d"
  | .set members =>
    if members.isEmpty then "set()"
    else "\x7b" ++ String.intercalate ", " (quotedItems members) ++ "\x7d"
termination_by structural x => x

/-- The items of a sequence spelled out. -/
def quotedItems : List Document → List String
  | [] => []
  | d :: rest => d.quoted :: quotedItems rest
termination_by structural x => x

/-- The entries of a mapping spelled out. -/
def quotedEntries : List (Document × Document) → List String
  | [] => []
  | e :: rest => quotedEntry e :: quotedEntries rest
termination_by structural x => x

/-- One entry of a mapping spelled out. -/
def quotedEntry : Document × Document → String
  | (k, v) => k.quoted ++ ": " ++ v.quoted
termination_by structural x => x

end

mutual

/-- Whether the text of a document needs an integer that is too long to be written. -/
def holdsLongInteger : Document → Bool
  | .int n => Number.isLong n
  | .seq items => anyLong items
  | .pair k v => k.holdsLongInteger || v.holdsLongInteger
  | .map entries => anyEntryLong entries
  | .set members => anyLong members
  | _ => false
termination_by structural x => x

/-- Whether an item of a sequence holds such an integer. -/
def anyLong : List Document → Bool
  | [] => false
  | d :: rest => d.holdsLongInteger || anyLong rest
termination_by structural x => x

/-- Whether an entry of a mapping holds such an integer. -/
def anyEntryLong : List (Document × Document) → Bool
  | [] => false
  | e :: rest => entryLong e || anyEntryLong rest
termination_by structural x => x

/-- Whether one entry of a mapping holds such an integer. -/
def entryLong : Document × Document → Bool
  | (k, v) => k.holdsLongInteger || v.holdsLongInteger
termination_by structural x => x

end

/-- The text that a document stands for. -/
def display : Document → String
  | .text s => s
  | .date d => d.text
  | .timestamp t => t.text ' '
  | d => d.quoted

end Document
end FixBindings
