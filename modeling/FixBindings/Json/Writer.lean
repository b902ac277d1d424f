import FixBindings.Document.Display

/-!
# Writing JSON

A JSON text of a document in ASCII, with the entries of mappings sorted by their keys.  Texts,
numbers, truth values and null may be keys and are written as texts; keys of kinds without a
common order, and values for which JSON has no form, are faults.
-/

set_option autoImplicit false

namespace FixBindings
namespace Json

/-- Why a document has no JSON text. -/
inductive WriteFault where
  /-- A value of a kind that JSON has no form for. -/
  | value (kind : String)
  /-- A key of a kind that JSON has no form for. -/
  | key (kind : String)
  /-- Two keys without an order between them. -/
  | order (later earlier : String)
deriving Repr, DecidableEq

/-- The text of a fault. -/
def WriteFault.message : WriteFault → String
  | .value kind => "Object of type " ++ kind ++ " is not JSON serializable"
  | .key kind => "keys must be str, int, float, bool or None, not " ++ kind
  | .order later earlier =>
    "'<' not supported between instances of '" ++ later ++ "' and '" ++ earlier ++ "'"

/-- A code unit as an escape. -/
def unitEscape (n : Nat) : List Char := '\\' :: 'u' :: Quoted.hex 4 n

/-- One character between quotation marks. -/
def writeChar (c : Char) : List Char :=
  if c == '\x22' || c == '\\' then ['\\', c]
  else if c == '\n' then ['\\', 'n']
  else if c == '\r' then ['\\', 'r']
  else if c == '\t' then ['\\', 't']
  else if c == '\x08' then ['\\', 'b']
  else if c == '\x0c' then ['\\', 'f']
  else if 0x20 ≤ c.toNat ∧ c.toNat < 0x7F then [c]
  else if c.toNat < 0x10000 then unitEscape c.toNat
  else
    unitEscape (0xD800 + (c.toNat - 0x10000) / 0x400)
      ++ unitEscape (0xDC00 + (c.toNat - 0x10000) % 0x400)

/-- A text between quotation marks. -/
def writeText (s : String) : String :=
  String.ofList ('\x22' :: (s.toList.flatMap writeChar ++ ['\x22']))

/-- A real number, infinities and no number included. -/
def writeReal (x : Float) : String :=
  match Number.realParts x with
  | .notANumber => "NaN"
  | .infinite negative => if negative then "-Infinity" else "Infinity"
  | .finite _ _ _ => Number.realText x

/-- The text of a key. -/
def keyText : Document → Except WriteFault String
  | .text s => .ok s
  | .null => .ok "null"
  | .bool b => .ok (if b then "true" else "false")
  | .int n => .ok (toString n)
  | .real x => .ok (writeReal x)
  | d => .error (.key d.kindName)

/-- Whether a number is less than another. -/
def numberLess (a b : Document) : Option Bool :=
  match a, b with
  | .real x, .real y => some (x < y)
  | .real x, b => b.integer?.map fun n => Number.compareReal? x n == some .lt
  | a, .real y => a.integer?.map fun n => Number.compareReal? y n == some .gt
  | a, b => do return decide ((← a.integer?) < (← b.integer?))

/-- Whether a key goes before another, where keys of their kinds have an order. -/
def keyLess (a b : Document) : Except WriteFault Bool :=
  match a, b with
  | .text s, .text t => .ok (decide (s < t))
  | .bytes s, .bytes t => .ok (decide (s.map UInt8.toNat < t.map UInt8.toNat))
  | .date d, .date e => .ok (decide (Calendar.dayNumber d < Calendar.dayNumber e))
  | .timestamp t, .timestamp u => .ok (decide (t.instant < u.instant))
  | a, b =>
    match numberLess a b with
    | some r => .ok r
    | none => .error (.order a.kindName b.kindName)

/-- Puts an entry into a list of entries that descend by their keys. -/
def insertSorted {α : Type} (e : Document × α) :
    List (Document × α) → Except WriteFault (List (Document × α))
  | [] => .ok [e]
  | f :: rest => do
    if ← keyLess e.1 f.1 then return f :: (← insertSorted e rest) else return e :: f :: rest

/-- Checks that all neighbouring keys have an order. -/
def checkOrder {α : Type} : List (Document × α) → Except WriteFault Unit
  | a :: b :: rest => do
    let _ ← keyLess b.1 a.1
    checkOrder (b :: rest)
  | _ => .ok ()

/-- Sorts entries by their keys. -/
def sortEntries {α : Type} (entries : List (Document × α)) :
    Except WriteFault (List (Document × α)) := do
  checkOrder entries
  return (← entries.foldlM (fun sorted e => insertSorted e sorted) []).reverse

/-- The parts of a collection between brackets. -/
def bracketed (opening closing : String) (parts : List String) : String :=
  opening ++ String.intercalate ", " parts ++ closing

/-- An entry of which the value is written already. -/
def joinEntry (e : Document × Except WriteFault String) : Except WriteFault String :=
  return writeText (← keyText e.1) ++ ": " ++ (← e.2)

mutual

/-- A document as JSON.  Integers of any length are written: `Number.maxDigits` does not bear on
them. -/
def write : Document → Except WriteFault String
  | .null => .ok "null"
  | .bool b => .ok (if b then "true" else "false")
  | .int n => .ok (toString n)
  | .real x => .ok (writeReal x)
  | .text s => .ok (writeText s)
  | .seq items => return bracketed "[" "]" (← writeItems items)
  | .pair k v => return bracketed "[" "]" [← write k, ← write v]
  | .map entries => do
    let sorted ← sortEntries (writeEntries entries)
    return bracketed "\x7b" "\x7d" (← sorted.mapM joinEntry)
  | d => .error (.value d.shortKindName)
termination_by structural x => x

/-- The items of a sequence as JSON. -/
def writeItems : List Document → Except WriteFault (List String)
  | [] => .ok []
  | d :: rest => return (← write d) :: (← writeItems rest)
termination_by structural x => x

/-- The entries of a mapping with their values as JSON. -/
def writeEntries : List (Document × Document) → List (Document × Except WriteFault String)
  | [] => []
  | e :: rest => writeEntry e :: writeEntries rest
termination_by structural x => x

/-- One entry of a mapping with its value as JSON. -/
def writeEntry : Document × Document → Document × Except WriteFault String
  | (k, v) => (k, write v)
termination_by structural x => x

end

end Json
end FixBindings
