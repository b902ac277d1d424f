import FixBindings.Text.Base64
import FixBindings.Unicode.Case
import FixBindings.Yaml.Node

/-!
# Reading YAML

The document that a YAML text spells.  Entries of merged mappings stand in front of the own ones of
a mapping, and of two equal keys the last one counts.  Where several parts of a text have a fault,
the one of the part that is nested least deeply decides, and the first of those.
-/

set_option autoImplicit false

namespace FixBindings
namespace Yaml

/-- The result of making a document of a part of a text.  A fault has the depth of its part. -/
abbrev Trial (α : Type) := Except (Nat × Fault) α

/-- The results of several parts, or the decisive fault. -/
def gather {α : Type} : List (Trial α) → Trial (List α)
  | [] => .ok []
  | t :: rest =>
    match t, gather rest with
    | .ok a, .ok as => .ok (a :: as)
    | .ok _, .error f => .error f
    | .error f, .ok _ => .error f
    | .error f, .error g => .error (if f.1 ≤ g.1 then f else g)

/-! ## Scalars -/

/-- The text of a node.  A mapping may have its text under the key `=`. -/
def scalarText : Nat → Node → Reading String
  | 0, _ => refuse .nodeKind
  | _ + 1, .scalar _ text => .ok text
  | fuel + 1, .mapping _ entries =>
    match entries.find? fun e => e.1.tag == commonTag "value" with
    | some (_, value) => scalarText fuel value
    | none => refuse .nodeKind
  | _ + 1, .sequence _ _ => refuse .nodeKind

/-- Reads an integer of some base. -/
def integer (base : Nat) (s : String) : Reading Int :=
  match Number.readInteger base s with
  | .ok n => .ok n
  | .error .notLiteral => .error (.integerLiteral base (Quoted.text s))
  | .error (.tooLong digits) => .error (.integerTooLong digits)

/-- A text without its underscores. -/
def dropUnderscores (s : String) : List Char := s.toList.filter (· != '_')

/-- The number that parts of sixty make, the last one being the smallest. -/
def sexagesimal (parts : List Int) : Int := parts.foldl (fun n part => n * 60 + part) 0

/-- The integer of a text. -/
def integerOf (s : String) : Reading Document := do
  let cs := dropUnderscores s
  if cs.isEmpty then throw .emptyNumber
  let (negative, body) := Number.splitSign cs
  let signed (n : Int) : Document := .int (if negative then -n else n)
  match body with
  | [] => throw .emptyNumber
  | ['0'] => return .int 0
  | '0' :: 'b' :: rest => return signed (← integer 2 (String.ofList rest))
  | '0' :: 'x' :: rest => return signed (← integer 16 (String.ofList rest))
  | '0' :: _ => return signed (← integer 8 (String.ofList body))
  | _ =>
    let parts ← (colonParts body).mapM fun part => integer 10 (String.ofList part)
    return signed (sexagesimal parts)

/-- Reads a real number. -/
def real (s : String) : Reading Float :=
  match Number.readReal? s with
  | some x => .ok x
  | none => .error (.realLiteral (Quoted.text s))

/-- The real number that parts of sixty make, of which the smallest comes first. -/
def sexagesimalReal : Nat → Float → List Float → Float
  | _, sum, [] => sum
  | base, sum, part :: parts =>
    sexagesimalReal (base * 60) (sum + part * Number.realOfNat base) parts

/-- The real number of a text. -/
def realOf (s : String) : Reading Document := do
  let cs := (Unicode.toLower (String.ofList (dropUnderscores s))).toList
  if cs.isEmpty then throw .emptyNumber
  let (negative, body) := Number.splitSign cs
  let signed (x : Float) : Document := .real (if negative then -x else x)
  if body == ".inf".toList then return signed (Number.realOfBits false Number.infiniteBits)
  else if body == ".nan".toList then
    return .real (Number.realOfBits false (Number.infiniteBits + Nat.pow 2 51))
  else if body.contains ':' then
    let parts ← (colonParts body).mapM fun part => real (String.ofList part)
    return signed (sexagesimalReal 1 0 parts.reverse)
  else return signed (← real (String.ofList body))

/-- The truth value of a text. -/
def truthOf (s : String) : Reading Document :=
  let word := Unicode.toLower s
  match truthWords.lookup word with
  | some b => .ok (.bool b)
  | none => .error (.truth word)

/-- The octets of a text. -/
def binaryOf (s : String) : Reading Document :=
  if s.toList.any fun c => 0x80 ≤ c.toNat then refuse .binary
  else
    match Base64.decode? s.toList with
    | some octets => .ok (.bytes octets)
    | none => refuse .binary

/-- The microseconds of a fraction of a second. -/
def microseconds (fraction : List Char) : Nat :=
  Number.digitsValue ((fraction ++ Number.zeros 6).take 6)

/-- The minutes of a distance from universal time. -/
def Zone.minutes : Zone → Int
  | .universal => 0
  | .apart negative hours minutes =>
    let n : Int := (hours * 60 + minutes : Nat)
    if negative then -n else n

/-- The date or timestamp of a text. -/
def timestampOf (s : String) : Reading Document :=
  match timestampText? (dropFinalBreak s.toList) with
  | none => .error .notTimestamp
  | some t =>
    match t.clock with
    | none => ((Calendar.date t.year t.month t.day).map .date).mapError .calendar
    | some c =>
      ((Calendar.timestamp t.year t.month t.day c.hour c.minute c.second
        (microseconds c.fraction) (c.zone.map Zone.minutes)).map .timestamp).mapError .calendar

/-! ## Collections -/

/-- The own entries of a mapping behind those that it merges, together with these. -/
def flatten : Nat → List (Node × Node) → Reading (List (Node × Node))
  | 0, _ => refuse .merge
  | fuel + 1, entries => do
    let parts ← entries.mapM fun (key, value) =>
      if key.tag == commonTag "merge" then
        match value with
        | .mapping _ merged => do return (← flatten fuel merged, [])
        | .sequence _ items => do
          let merged ← items.mapM fun
            | .mapping _ merged => flatten fuel merged
            | _ => refuse .merge
          return (merged.reverse.flatten, [])
        | .scalar _ _ => refuse .merge
      else if key.tag == commonTag "value" then
        match key with
        | .scalar _ text => return ([], [(Node.scalar (commonTag "str") text, value)])
        | .sequence _ items => return ([], [(Node.sequence (commonTag "str") items, value)])
        | .mapping _ own => return ([], [(Node.mapping (commonTag "str") own, value)])
      else return ([], [(key, value)])
    return (parts.map (·.1)).flatten ++ (parts.map (·.2)).flatten

/-- Whether a tag is one of a collection, which is no key. -/
def isCollectionTag (tag : String) : Bool :=
  ["seq", "map", "set", "omap", "pairs"].any fun name => tag == commonTag name

/-- Pairs the elements of a list that come one after the other. -/
def pairUp {α : Type} : List α → List (α × α)
  | a :: b :: rest => (a, b) :: pairUp rest
  | _ => []

/-- The document of the scalar of a tag, if the tag is one of a scalar. -/
def scalarOf? (tag : String) : Option (String → Reading Document) :=
  [("null", fun _ => .ok .null), ("bool", truthOf), ("int", integerOf), ("float", realOf),
    ("binary", binaryOf), ("timestamp", timestampOf), ("str", fun s => .ok (.text s))].findSome?
    fun (name, of) => if tag == commonTag name then some of else none

mutual

/-- The document of a node at some depth. -/
def value : Nat → Nat → Node → Trial Document
  | 0, depth, _ => .error (depth, .malformed .nodeKind)
  | fuel + 1, depth, node =>
    match scalarOf? node.tag with
    | some of => ((scalarText (fuel + 1) node) >>= of).mapError (depth, ·)
    | none =>
      if node.tag == commonTag "seq" then
        match node with
        | .sequence _ items => do
          return .seq (← gather (items.map (value fuel (depth + 1))))
        | _ => .error (depth + 1, .malformed .nodeKind)
      else if node.tag == commonTag "map" then do
        let entries ← mapping fuel (depth + 1) node
        return .map (entries.foldl (fun es e => Document.insertEntry es e.1 e.2) [])
      else if node.tag == commonTag "set" then do
        let entries ← mapping fuel (depth + 1) node
        return .set (entries.foldl (fun ms e => Document.insertMember ms e.1) [])
      else if node.tag == commonTag "omap" || node.tag == commonTag "pairs" then
        match node with
        | .sequence _ items => do
          let parts ← gather (items.flatMap (pairParts fuel (depth + 1)))
          return .seq ((pairUp parts).map fun (k, v) => .pair k v)
        | _ => .error (depth + 1, .malformed .nodeKind)
      else .error (depth, .malformed .unknownTag)

/-- The key and value of an item of an ordered mapping. -/
def pairParts : Nat → Nat → Node → List (Trial Document)
  | 0, depth, _ => [.error (depth, .malformed .nodeKind)]
  | fuel + 1, depth, item =>
    match item with
    | .mapping _ [(key, val)] => [value fuel depth key, value fuel depth val]
    | _ => [.error (depth, .malformed .nodeKind)]

/-- The entries of a mapping, whose parts lie at some depth. -/
def mapping : Nat → Nat → Node → Trial (List (Document × Document))
  | 0, depth, _ => .error (depth, .malformed .nodeKind)
  | fuel + 1, depth, node =>
    match node with
    | .mapping _ entries => do
      let entries ← (flatten (fuel + 1) entries).mapError (depth, ·)
      let parts ← gather (entries.flatMap fun (key, val) =>
        [if isCollectionTag key.tag then .error (depth, .malformed .unhashableKey)
          else value fuel depth key,
        value fuel depth val])
      return pairUp parts
    | _ => .error (depth, .malformed .nodeKind)

end

/-- Reads a YAML text.  A text without a document is null. -/
def read (s : String) : Reading Document := do
  match ← root? s with
  | none => return .null
  | some root => (value (s.length + 8) 0 root).mapError (·.2)

end Yaml
end FixBindings
