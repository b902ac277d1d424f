import FixBindings.Number.Real
import FixBindings.Calendar

/-!
# Documents

The values that data files spell: scalars, sequences, and mappings whose entries keep the order of
their first appearance.  `Document.same` is the equality of documents.  Numbers are equal when
their values are, whatever their kind, truth values counting as zero and one, and the order of the
entries of a mapping or the members of a set does not matter.  A mapping holds no two equal keys.
-/

set_option autoImplicit false

namespace FixBindings

/-- A value that a data file spells. -/
inductive Document where
  | null
  | bool (b : Bool)
  | int (n : Int)
  | real (x : Float)
  | text (s : String)
  | bytes (octets : List UInt8)
  | date (d : Date)
  | timestamp (t : Timestamp)
  | seq (items : List Document)
  /-- One entry of an ordered mapping. -/
  | pair (key value : Document)
  | map (entries : List (Document × Document))
  | set (members : List Document)

namespace Document

instance : Inhabited Document := ⟨.null⟩

instance : Coe String Document := ⟨.text⟩

/-- The name of the kind of a document. -/
def kindName : Document → String
  | .null => "NoneType"
  | .bool _ => "bool"
  | .int _ => "int"
  | .real _ => "float"
  | .text _ => "str"
  | .bytes _ => "bytes"
  | .date _ => "datetime.date"
  | .timestamp _ => "datetime.datetime"
  | .seq _ => "list"
  | .pair _ _ => "tuple"
  | .map _ => "dict"
  | .set _ => "set"

/-- The kind name without the module it comes from. -/
def shortKindName : Document → String
  | .date _ => "date"
  | .timestamp _ => "datetime"
  | d => d.kindName

/-- The integer that a truth value or an integer is. -/
def integer? : Document → Option Int
  | .bool b => some (if b then 1 else 0)
  | .int n => some n
  | _ => none

/-- Equality of numbers by value; anything else is no number. -/
def sameNumber (a b : Document) : Bool :=
  match a, b with
  | .real x, .real y => x == y
  | .real x, b => (b.integer?.map (Number.realEqualsInteger x)).getD false
  | a, .real y => (a.integer?.map (Number.realEqualsInteger y)).getD false
  | a, b =>
    match a.integer?, b.integer? with
    | some m, some n => decide (m = n)
    | _, _ => false

mutual

/-- Equality of documents. -/
def same : Document → Document → Bool
  | .null, .null => true
  | .text s, .text t => s == t
  | .bytes s, .bytes t => s == t
  | .date d, .date e => d == e
  | .timestamp t, .timestamp u => t.same u
  | .seq as, .seq bs => sameItems as bs
  | .pair k v, .pair l w => same k l && same v w
  | .map as, .map bs => as.length == bs.length && entriesAmong as bs
  | .set as, .set bs => as.length == bs.length && membersAmong as bs
  | a, b => sameNumber a b
termination_by structural x => x

/-- Whether two sequences are equal item by item. -/
def sameItems : List Document → List Document → Bool
  | [], [] => true
  | a :: as, b :: bs => same a b && sameItems as bs
  | _, _ => false
termination_by structural x => x

/-- Whether each entry equals one of the others. -/
def entriesAmong : List (Document × Document) → List (Document × Document) → Bool
  | [], _ => true
  | e :: rest, others => others.any (sameEntry e ·) && entriesAmong rest others
termination_by structural x => x

/-- Whether two entries have equal keys and equal values. -/
def sameEntry : Document × Document → Document × Document → Bool
  | (k, v), e => same k e.1 && same v e.2
termination_by structural x => x

/-- Whether each member equals one of the others. -/
def membersAmong : List Document → List Document → Bool
  | [], _ => true
  | a :: rest, others => others.any (same a ·) && membersAmong rest others
termination_by structural x => x

end

instance : BEq Document := ⟨same⟩

/-- The kind of the part of a document for which it cannot serve as a key, if there is one. -/
def unhashableKind? : Document → Option String
  | .seq _ => some "list"
  | .map _ => some "dict"
  | .set _ => some "set"
  | .pair k v => k.unhashableKind?.or v.unhashableKind?
  | _ => none

/-- Whether a document counts as true. -/
def truthy : Document → Bool
  | .null => false
  | .bool b => b
  | .int n => n != 0
  | .real x => x != 0
  | .text s => !s.isEmpty
  | .bytes octets => !octets.isEmpty
  | .seq items => !items.isEmpty
  | .map entries => !entries.isEmpty
  | .set members => !members.isEmpty
  | .date _ | .timestamp _ | .pair _ _ => true

/-- Whether a document is a text. -/
def isText : Document → Bool
  | .text _ => true
  | _ => false

/-- The text of a document that is one. -/
def text? : Document → Option String
  | .text s => some s
  | _ => none

/-- The value under a key. -/
def lookup? (key : Document) (entries : List (Document × Document)) : Option Document :=
  (entries.find? fun e => e.1.same key).map (·.2)

/-- Puts a value under a key, in the key's place if it is there and at the end otherwise. -/
def insertEntry (entries : List (Document × Document)) (key value : Document) :
    List (Document × Document) :=
  if entries.any fun e => e.1.same key then
    entries.map fun e => if e.1.same key then (e.1, value) else e
  else entries ++ [(key, value)]

/-- Adds a member to a set. -/
def insertMember (members : List Document) (d : Document) : List Document :=
  if members.any fun m => m.same d then members else members ++ [d]

end Document
end FixBindings
