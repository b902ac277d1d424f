import FixBindings.Unicode.CaseTable

/-!
# Upper and lower case

Full case mapping of characters and texts.  Upper case is a character-wise mapping in which an
image may be longer than one character (`ß` becomes `SS`).  Lower case looks at the neighbours in
one place: a capital sigma that ends a word becomes `ς`, any other `σ`.
-/

set_option autoImplicit false

namespace FixBindings
namespace Unicode

/-- The image of a code point under the runs, where the runs ascend by first code point. -/
def lookupRun (c : Nat) : List CaseRun → Option Nat
  | [] => none
  | r :: rest => if c < r.first then none else (r.image? c).or (lookupRun c rest)

/-- The upper case image of one character. -/
def upperImage (c : Char) : List Char :=
  match lookupRun c.toNat upperRuns with
  | some image => [Char.ofNat image]
  | none =>
    match upperExpansions.lookup c.toNat with
    | some images => images.map Char.ofNat
    | none => [c]

/-- The lower case image of one character on its own. -/
def lowerImage (c : Char) : List Char :=
  match lookupRun c.toNat lowerRuns with
  | some image => [Char.ofNat image]
  | none =>
    match lowerExpansions.lookup c.toNat with
    | some images => images.map Char.ofNat
    | none => [c]

/-- Whether a code point lies in one of the ranges. -/
def inCaseRanges (ranges : List (Nat × Nat)) (c : Char) : Bool :=
  ranges.any fun r => decide (r.1 ≤ c.toNat) && decide (c.toNat ≤ r.2)

/-- Whether the nearest character that is not ignored by case mapping is a cased one. -/
def meetsCased (cs : List Char) : Bool :=
  match cs.dropWhile (inCaseRanges caseIgnorableRanges) with
  | [] => false
  | c :: _ => inCaseRanges casedRanges c

/-- Lower case of `cs`, where `before` holds the characters to its left, nearest first. -/
def lowerAfter : List Char → List Char → List Char
  | _, [] => []
  | before, c :: rest =>
    let image :=
      if c == 'Σ' then [if meetsCased before && !meetsCased rest then 'ς' else 'σ']
      else lowerImage c
    image ++ lowerAfter (c :: before) rest

/-- A text in upper case. -/
def toUpper (s : String) : String :=
  String.ofList (s.toList.flatMap upperImage)

/-- A text in lower case. -/
def toLower (s : String) : String :=
  String.ofList (lowerAfter [] s.toList)

end Unicode
end FixBindings
