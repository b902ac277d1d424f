import FixBindings.Document.Access
import FixBindings.Proofs.Declarations
import Mathlib.Data.List.Perm.Subperm

/-!
# Documents that are equal to a given one

`Document.same` is the equality of documents: an integer is equal to a real number of its value,
and the order of the entries of a mapping does not count.  Reading is to make nothing of such
differences, and this module says what can be told of a document from the one that it is equal to:
its items (`same_seq`), its integer (`toInteger_of_same`), and the entries under the keys of a
mapping with keys that are different texts (`holds_of_same`).
-/

set_option autoImplicit false

namespace FixBindings

/-! ## Numbers -/

theorem Number.binaryFraction_pos (m : Nat) (e : Int) : 0 < (binaryFraction m e).2 := by
  rw [binaryFraction]
  split
  · exact Nat.one_pos
  · exact Nat.pow_pos (by decide)

/-- A real number that equals an integer has it for its whole part. -/
theorem Number.wholePart?_of_equals {x : Float} {n : Int} (h : realEqualsInteger x n = true) :
    wholePart? x = some n := by
  rw [realEqualsInteger, beq_iff_eq, compareReal?] at h
  rw [wholePart?]
  cases hx : realParts x with
  | notANumber => simp [hx] at h
  | infinite negative => cases negative <;> simp [hx] at h
  | finite negative m e =>
    have positive := binaryFraction_pos m e
    rcases hf : binaryFraction m e with ⟨num, den⟩
    simp only [hx, hf, Option.some.injEq, Std.compare_eq_iff_eq] at h positive ⊢
    have den0 : (den : Int) ≠ 0 := by omega
    cases negative with
    | false =>
      have equal : (num : Int) = n * den := h
      rw [if_neg Bool.false_ne_true, Int.natCast_ediv, equal, Int.mul_ediv_cancel _ den0]
    | true =>
      have equal : (num : Int) = -n * den := by
        rw [Int.neg_mul, ← (show -(num : Int) = n * den from h), Int.neg_neg]
      rw [if_pos rfl, Int.natCast_ediv, equal, Int.mul_ediv_cancel _ den0, Int.neg_neg]

namespace Document

/-! ## Equal documents, kind by kind -/

theorem toInteger_of_same {n : Int} {d : Document} (h : (Document.int n).same d) :
    d.toInteger = .ok n := by
  cases d with
  | bool b => cases b <;> simpa [same, sameNumber, integer?, toInteger, eq_comm] using h
  | int m => simpa [same, sameNumber, integer?, toInteger, eq_comm] using h
  | real x =>
    have equals : Number.realEqualsInteger x n = true := by
      simpa [same, sameNumber, integer?] using h
    rw [toInteger, Number.wholePart?_of_equals equals]
  | _ => simp [same, sameNumber, integer?] at h

theorem same_text {s : String} {d : Document} (h : (Document.text s).same d) : d = .text s :=
  ((same_iff_eq rfl).1 h).symm

theorem same_seq {as : List Document} {d : Document} (h : (Document.seq as).same d) :
    ∃ bs, d = .seq bs ∧ List.Forall₂ (fun a b => a.same b = true) as bs := by
  cases d with
  | seq bs =>
    refine ⟨bs, rfl, ?_⟩
    rw [same] at h
    induction as generalizing bs with
    | nil =>
      cases bs with
      | nil => exact .nil
      | cons b bs => simp [sameItems] at h
    | cons a as ih =>
      cases bs with
      | nil => simp [sameItems] at h
      | cons b bs =>
        rw [sameItems, Bool.and_eq_true] at h
        exact .cons h.1 (ih bs h.2)
  | _ => simp [same, sameNumber, integer?] at h

theorem entriesAmong_iff {as bs : List (Document × Document)} :
    entriesAmong as bs = true ↔ ∀ e ∈ as, ∃ f ∈ bs, e.1.same f.1 ∧ e.2.same f.2 := by
  induction as with
  | nil => simp [entriesAmong]
  | cons e as ih =>
    obtain ⟨key, value⟩ := e
    rw [entriesAmong, Bool.and_eq_true, List.any_eq_true, ih, List.forall_mem_cons]
    simp only [sameEntry, Bool.and_eq_true]

theorem same_map {as : List (Document × Document)} {d : Document}
    (h : (Document.map as).same d) : ∃ bs, d = .map bs ∧ as.length = bs.length ∧
      ∀ e ∈ as, ∃ f ∈ bs, e.1.same f.1 ∧ e.2.same f.2 := by
  cases d with
  | map bs =>
    rw [same, Bool.and_eq_true, beq_iff_eq, entriesAmong_iff] at h
    exact ⟨bs, rfl, h⟩
  | _ => simp [same, sameNumber, integer?] at h

/-! ## Records -/

/-- A mapping whose keys are texts. -/
def record (entries : List (String × Document)) : Document :=
  .map (entries.map fun e => (.text e.1, e.2))

/-- A document has a value under a key. -/
structure Holds (d : Document) (key : String) (value : Document) : Prop where
  entry : d.entry key = .ok value
  entry? : d.entry? key = .ok (some value)

theorem Holds.entryD {d : Document} {key : String} {value : Document} (h : d.Holds key value)
    (default : Document) : d.entryD key default = .ok value := by
  rw [Document.entryD, h.entry?]
  rfl

/-- A key that a mapping has once is looked up where it is. -/
theorem lookup?_of_mem {entries : List (Document × Document)} {key : String} {value : Document}
    (once : (entries.map Prod.fst).Nodup) (h : (Document.text key, value) ∈ entries)
    (texts : ∀ e ∈ entries, e.1.isText) : lookup? (.text key) entries = some value := by
  cases found : entries.find? fun e => e.1.same (.text key) with
  | none =>
    have absent := List.find?_eq_none.1 found _ h
    simp [same] at absent
  | some e =>
    have he := List.mem_of_find?_eq_some found
    have same : e.1.same (.text key) = true := by simpa using List.find?_some found
    have there : e.1 = .text key := (same_iff_eq (texts e he)).1 same
    have unique : e = (.text key, value) := List.inj_on_of_nodup_map once he h there
    rw [lookup?, found, unique]
    rfl

/-- **What is equal to a record holds equal values under the same keys.** -/
theorem holds_of_same (entries : List (String × Document)) {d : Document}
    (h : (record entries).same d) (once : (entries.map Prod.fst).Nodup) :
    entries.Forall fun e => ∃ w, e.2.same w ∧ d.Holds e.1 w := by
  obtain ⟨bs, rfl, length, among⟩ := same_map h
  -- there are as many keys on either side, so those of `d` are the keys of the record
  have nodup : (entries.map fun e => Document.text e.1).Nodup := by
    have texts := once.map fun (s t : String) => Document.text.inj
    rwa [List.map_map] at texts
  have keys : (entries.map fun e => Document.text e.1).Perm (bs.map Prod.fst) := by
    refine (nodup.subperm fun key hkey => ?_).perm_of_length_le ?_
    · obtain ⟨e, he, rfl⟩ := List.mem_map.1 hkey
      obtain ⟨f, hf, same, -⟩ := among _ (List.mem_map_of_mem he)
      exact List.mem_map.2 ⟨f, hf, same_text same⟩
    · simp [← length]
  have texts : ∀ f ∈ bs, f.1.isText := by
    intro f hf
    obtain ⟨e, -, he⟩ := List.mem_map.1 (keys.mem_iff.2 (List.mem_map_of_mem hf))
    rw [← he]
    rfl
  refine List.forall_iff_forall_mem.2 fun e he => ?_
  obtain ⟨f, hf, sameKey, sameValue⟩ := among _ (List.mem_map_of_mem he)
  obtain ⟨key, w⟩ := f
  obtain rfl := same_text sameKey
  have found := lookup?_of_mem (keys.nodup_iff.1 nodup) hf texts
  refine ⟨w, sameValue, ?_, ?_⟩
  · rw [entry, found]
  · exact congrArg Except.ok found

end Document
end FixBindings
