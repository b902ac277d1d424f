import FixBindings.Layout
import FixBindings.Schema.Naming

/-!
# Characters that case mapping does not bring in

Case mapping may make one character into several others, and `mem_tableImage` says where each of
them comes from.  There are characters that it makes from no other one: `Unreached` checks this
against the tables.  Such a character is in an image only if it was there before
(`Unreached.eq_of_mem_image`).  All that the tables lead to are letters and
marks that come after `A`, so the characters before `A`, such as a point or a slash, are unreached
under either mapping; the underscore and the small letters of ASCII are so in upper case.

In particular the segment for a version never holds a point (`point_notMem_segmentOf`), and neither
a segment nor a class name holds a slash that the version or the name does not hold.
-/

set_option autoImplicit false

namespace FixBindings

namespace Unicode

variable {c d : Char}

/-- A character comes before the letters, and is not NUL, which stands in for what is none. -/
def BeforeLetters (d : Char) : Prop := 0 < d.toNat ∧ d.toNat < 65

instance (d : Char) : Decidable (BeforeLetters d) := inferInstanceAs (Decidable (_ ∧ _))

theorem CaseRun.image?_eq_some_iff {r : CaseRun} {c n : Nat} : r.image? c = some n ↔
    (r.first ≤ c ∧ c ≤ r.last ∧ r.step ∣ c - r.first) ∧ r.image + (c - r.first) = n := by
  rw [CaseRun.image?, Option.ite_none_right_eq_some, Option.some_inj, Nat.dvd_iff_mod_eq_zero]

/-- What is looked up is the image under one of the runs. -/
theorem exists_image?_of_lookupRun {runs : List CaseRun} {c n : Nat}
    (h : lookupRun c runs = some n) : ∃ r ∈ runs, r.image? c = some n := by
  induction runs with
  | nil => exact absurd h (by simp [lookupRun])
  | cons r rest ih =>
    rw [lookupRun] at h
    split at h
    · exact absurd h (by simp)
    · rcases Option.or_eq_some_iff.1 h with h | ⟨-, h⟩
      · exact ⟨r, List.mem_cons_self, h⟩
      · obtain ⟨s, hs, image⟩ := ih h
        exact ⟨s, List.mem_cons_of_mem r hs, image⟩

/-- A number is the code point of its character, unless NUL stands in for it. -/
theorem toNat_ofNat_or (n : Nat) : (Char.ofNat n).toNat = n ∨ Char.ofNat n = '\x00' := by
  by_cases valid : n.isValidChar
  · refine Or.inl ?_
    rw [Char.ofNat, dif_pos valid]
    rfl
  · exact Or.inr (by rw [Char.ofNat, dif_neg valid]; rfl)

theorem ne_ofNat {n : Nat} (nul : 0 < d.toNat) (h : d.toNat ≠ n) : d ≠ Char.ofNat n := by
  rintro rfl
  rcases toNat_ofNat_or n with same | none
  · exact h same
  · rw [none] at nul
    exact absurd nul (by decide)

/-- The image of a character under runs, and under a table of longer images where no run holds
it. -/
def tableImage (runs : List CaseRun) (expansions : List (Nat × List Nat)) (c : Char) : List Char :=
  match lookupRun c.toNat runs with
  | some image => [Char.ofNat image]
  | none =>
    match expansions.lookup c.toNat with
    | some images => images.map Char.ofNat
    | none => [c]

/-- Where a character of an image comes from. -/
theorem mem_tableImage {runs : List CaseRun} {expansions : List (Nat × List Nat)}
    (h : d ∈ tableImage runs expansions c) :
    (∃ r ∈ runs, ∃ n, r.image? c.toNat = some n ∧ d = Char.ofNat n) ∨
      (∃ images, (c.toNat, images) ∈ expansions ∧ ∃ n ∈ images, d = Char.ofNat n) ∨
      (lookupRun c.toNat runs = none ∧ expansions.lookup c.toNat = none) ∧ d = c := by
  rw [tableImage] at h
  split at h
  · rename_i n found
    obtain ⟨r, hr, image⟩ := exists_image?_of_lookupRun found
    exact Or.inl ⟨r, hr, n, image, List.mem_singleton.1 h⟩
  · rename_i noRun
    split at h
    · rename_i images found
      obtain ⟨n, hn, image⟩ := List.mem_map.1 h
      obtain ⟨_, _, split, -⟩ := List.lookup_eq_some_iff.1 found
      exact Or.inr (Or.inl ⟨images, by simp [split], n, hn, image.symm⟩)
    · rename_i noExpansion
      exact Or.inr (Or.inr ⟨⟨noRun, noExpansion⟩, List.mem_singleton.1 h⟩)

/-- No entry of the tables leads to a character. -/
structure Unreached (runs : List CaseRun) (expansions : List (Nat × List Nat)) (d : Char) :
    Prop where
  nul : 0 < d.toNat
  runs : ∀ r ∈ runs, d.toNat < r.image ∨ r.image + (r.last - r.first) < d.toNat
  expansions : ∀ e ∈ expansions, d.toNat ∉ e.2

instance (runs : List CaseRun) (expansions : List (Nat × List Nat)) (d : Char) :
    Decidable (Unreached runs expansions d) :=
  decidable_of_iff
    (0 < d.toNat ∧ (∀ r ∈ runs, d.toNat < r.image ∨ r.image + (r.last - r.first) < d.toNat) ∧
      ∀ e ∈ expansions, d.toNat ∉ e.2)
    ⟨fun h => ⟨h.1, h.2.1, h.2.2⟩, fun h => ⟨h.nul, h.runs, h.expansions⟩⟩

/-- **A character that no entry leads to is the image of none but itself.** -/
theorem Unreached.eq_of_mem_image {runs : List CaseRun} {expansions : List (Nat × List Nat)}
    (unreached : Unreached runs expansions d) (h : d ∈ tableImage runs expansions c) : d = c := by
  rcases mem_tableImage h with ⟨r, hr, n, image, same⟩ | ⟨images, himages, n, hn, same⟩ | ⟨-, same⟩
  · obtain ⟨⟨low, high, -⟩, moved⟩ := CaseRun.image?_eq_some_iff.1 image
    refine absurd same (ne_ofNat unreached.nul ?_)
    rcases unreached.runs r hr with before | after
    · omega
    · omega
  · have apart : d.toNat ∉ images := unreached.expansions (c.toNat, images) himages
    exact absurd same (ne_ofNat unreached.nul fun code => apart (code ▸ hn))
  · exact same

/-- The characters before `A` are those that no entry leads to where all entries lead to later
ones. -/
theorem BeforeLetters.unreached {runs : List CaseRun} {expansions : List (Nat × List Nat)}
    (runsLater : ∀ r ∈ runs, 65 ≤ r.image)
    (expansionsLater : ∀ e ∈ expansions, ∀ n ∈ e.2, 65 ≤ n) (before : BeforeLetters d) :
    Unreached runs expansions d where
  nul := before.1
  runs r hr := Or.inl (Nat.lt_of_lt_of_le before.2 (runsLater r hr))
  expansions e he hd := absurd (expansionsLater e he _ hd) (Nat.not_le.2 before.2)

theorem Unreached.eq_of_mem_upperImage (unreached : Unreached upperRuns upperExpansions d)
    (h : d ∈ upperImage c) : d = c := unreached.eq_of_mem_image h

theorem eq_of_mem_lowerImage (before : BeforeLetters d) (h : d ∈ lowerImage c) : d = c :=
  (before.unreached (by decide +kernel) (by decide +kernel)).eq_of_mem_image h

theorem eq_of_mem_upperImage (before : BeforeLetters d) (h : d ∈ upperImage c) : d = c :=
  (before.unreached (by decide +kernel) (by decide +kernel)).eq_of_mem_image h

/-- Case mapping lets no character go. -/
theorem upperImage_ne_nil (c : Char) : upperImage c ≠ [] := by
  have expansions : ∀ e ∈ upperExpansions, e.2 ≠ [] := by decide +kernel
  rw [upperImage]
  split
  · exact List.cons_ne_nil _ _
  · split
    · rename_i images himages
      obtain ⟨_, _, split, -⟩ := List.lookup_eq_some_iff.1 himages
      have image := expansions (c.toNat, images) (by simp [split])
      simpa using image
    · exact List.cons_ne_nil _ _

/-- The underscore is its own image, and the image of no other character. -/
theorem eq_of_underscore_mem_upperImage (h : '_' ∈ upperImage c) : c = '_' :=
  (Unreached.eq_of_mem_upperImage (by decide +kernel) h).symm

theorem mem_of_mem_lowerAfter (before : BeforeLetters d) {left cs : List Char}
    (h : d ∈ lowerAfter left cs) : d ∈ cs := by
  induction cs generalizing left with
  | nil => exact absurd h List.not_mem_nil
  | cons c rest ih =>
    rw [lowerAfter, List.mem_append] at h
    rcases h with h | h
    · split at h
      · split at h
        · obtain rfl := List.mem_singleton.1 h
          exact absurd before (by decide)
        · obtain rfl := List.mem_singleton.1 h
          exact absurd before (by decide)
      · exact eq_of_mem_lowerImage before h ▸ List.mem_cons_self
    · exact List.mem_cons_of_mem c (ih h)

theorem mem_of_mem_toLower (before : BeforeLetters d) {s : String} (h : d ∈ (toLower s).toList) :
    d ∈ s.toList := by
  rw [toLower, String.toList_ofList] at h
  exact mem_of_mem_lowerAfter before h

end Unicode

theorem Naming.mem_of_mem_titleChars {d : Char} (before : Unicode.BeforeLetters d) {start : Bool}
    {cs : List Char} (h : d ∈ titleChars start cs) : d ∈ cs := by
  induction cs generalizing start with
  | nil => exact absurd h (by simp [titleChars])
  | cons c rest ih =>
    rw [titleChars] at h
    split at h
    · exact List.mem_cons_of_mem c (ih h)
    · rcases List.mem_append.1 h with h | h
      · split at h
        · exact Unicode.eq_of_mem_upperImage before h ▸ List.mem_cons_self
        · exact List.mem_singleton.1 h ▸ List.mem_cons_self
      · exact List.mem_cons_of_mem c (ih h)

/-- Separators are in no image but their own. -/
theorem Naming.isSeparator_of_mem_upperImage {c d : Char} (h : d ∈ Unicode.upperImage c)
    (inner : isSeparator c = false) : isSeparator d = false := by
  cases separator : isSeparator d with
  | false => rfl
  | true =>
    have same : d = c := by
      rw [isSeparator, Bool.or_eq_true, beq_iff_eq, beq_iff_eq] at separator
      rcases separator with rfl | rfl
      · exact (Unicode.eq_of_underscore_mem_upperImage h).symm
      · exact Unicode.eq_of_mem_upperImage (by decide) h
    rw [← separator, same, inner]

/-- No separator is left in a class name. -/
theorem Naming.isSeparator_of_mem_titleChars {d : Char} {start : Bool} {cs : List Char}
    (h : d ∈ titleChars start cs) : isSeparator d = false := by
  induction cs generalizing start with
  | nil => exact absurd h (by simp [titleChars])
  | cons c rest ih =>
    rw [titleChars] at h
    split at h
    · exact ih h
    · rename_i inner
      rcases List.mem_append.1 h with h | h
      · split at h
        · exact isSeparator_of_mem_upperImage h (Bool.eq_false_iff.2 inner)
        · rw [List.mem_singleton.1 h, Bool.eq_false_iff.2 inner]
      · exact ih h

theorem Naming.separator_notMem_titleCase {c : Char} (h : isSeparator c) (name : String) :
    c ∉ (titleCase name).toList := by
  intro inside
  rw [titleCase, String.toList_ofList] at inside
  rw [isSeparator_of_mem_titleChars inside] at h
  exact Bool.false_ne_true h

/-- A class name begins with a character in upper case. -/
theorem Naming.exists_mem_upperImage_of_head? {d : Char} {cs : List Char}
    (h : (titleChars true cs).head? = some d) : ∃ c, d ∈ Unicode.upperImage c := by
  induction cs with
  | nil => exact absurd h (by simp [titleChars])
  | cons c rest ih =>
    rw [titleChars] at h
    split at h
    · exact ih h
    · obtain ⟨first, image, split⟩ := List.exists_cons_of_ne_nil (Unicode.upperImage_ne_nil c)
      rw [if_pos rfl, split, List.cons_append, List.head?_cons] at h
      exact ⟨c, by rw [split, Option.some.inj h]; exact List.mem_cons_self⟩

theorem Naming.mem_of_mem_titleCase {d : Char} (before : Unicode.BeforeLetters d) {name : String}
    (h : d ∈ (titleCase name).toList) : d ∈ name.toList := by
  rw [titleCase, String.toList_ofList] at h
  exact mem_of_mem_titleChars before h

theorem mem_of_mem_segmentOf {d : Char} (before : Unicode.BeforeLetters d) {version : String}
    (h : d ∈ (segmentOf version).toList) :
    d ≠ '.' ∧ d ∈ (baseVersion version).toList := by
  have h := Unicode.mem_of_mem_toLower before h
  rw [String.toList_ofList, List.mem_filter] at h
  exact ⟨by simpa using h.2, h.1⟩

theorem point_notMem_segmentOf (version : String) : '.' ∉ (segmentOf version).toList :=
  fun h => (mem_of_mem_segmentOf (by decide) h).1 rfl

end FixBindings
