import FixBindings.Number.Integer
import Mathlib.Data.List.Induction

/-!
# Decimal numerals

`Number.Spells` says what number a row of decimal digits stands for, of whatever script: a numeral
is a digit, or a numeral with one more digit behind it.  Numerals of at most `maxDigits` digits are
read as that number (`readInteger_of_spells`), with a minus sign in front as its negative, and
`spells_toDigits` says that the usual decimal text of a number is such a numeral.

Among the texts whose characters all count as digits these are the only ones that are read
(`exists_readInteger_iff`), because a digit such as a superscript belongs to no decimal script.
-/

set_option autoImplicit false

namespace FixBindings
namespace Number

open Unicode

/-- A row of decimal digits stands for a number. -/
inductive Spells : List Char → Nat → Prop
  | digit {c : Char} {d : Nat} (h : decimalValue? c = some d) : Spells [c] d
  | snoc {cs : List Char} {n : Nat} {c : Char} {d : Nat} (front : Spells cs n)
    (h : decimalValue? c = some d) : Spells (cs ++ [c]) (n * 10 + d)

/-! ## Single characters -/

variable {c : Char} {d : Nat}

theorem inRanges_iff {ranges : List (Nat × Nat)} {n : Nat} :
    inRanges ranges n ↔ ∃ r ∈ ranges, r.1 ≤ n ∧ n ≤ r.2 := by
  simp [inRanges]

theorem decimalValue?_lt (h : decimalValue? c = some d) : d < 10 := by
  rw [decimalValue?] at h
  split at h
  · split at h
    · obtain rfl := Option.some_inj.1 h
      omega
    · exact absurd h nofun
  · obtain ⟨z, found, rfl⟩ := Option.map_eq_some_iff.1 h
    have near := List.find?_some found
    simp only [Bool.and_eq_true, decide_eq_true_eq] at near
    omega

theorem isWideBlank_of_decimalValue? (h : decimalValue? c = some d) : isWideBlank c = false := by
  have apart : ∀ n ∈ wideBlanks, 0x80 ≤ n ∧
      decimalZeros.find? (fun z => decide (z ≤ n) && decide (n < z + 10)) = none := by decide
  by_contra blank
  rw [Bool.not_eq_false, isWideBlank, List.contains_iff_mem] at blank
  obtain ⟨wide, none⟩ := apart _ blank
  rw [decimalValue?, if_neg (by omega), none] at h
  exact absurd h nofun

/-- A decimal digit of any script is read as the ASCII digit of its value. -/
theorem plainChar_of_decimalValue? (h : decimalValue? c = some d) :
    plainChar c = Nat.digitChar d := by
  have ascii : ∀ d < 10, Char.ofNat (0x30 + d) = Nat.digitChar d := by decide
  rw [plainChar]
  split
  · rename_i small
    rw [decimalValue?, if_pos (by omega)] at h
    split at h
    · rename_i range
      obtain rfl := Option.some_inj.1 h
      rw [← ascii _ (by omega), Nat.add_sub_cancel' range.1, Char.ofNat_toNat]
    · exact absurd h nofun
  · rw [isWideBlank_of_decimalValue? h, if_neg Bool.false_ne_true, h]
    exact ascii d (decimalValue?_lt h)

/-- A digit of no decimal script is read as something that is no digit. -/
theorem plainChar_of_isDigit (digit : isDigit c) (h : decimalValue? c = none) :
    plainChar c = '?' := by
  have ascii : ∀ r ∈ digitRanges, r.1 < 0x80 → r = (0x30, 0x39) := by decide
  have apart : ∀ n ∈ wideBlanks, inRanges digitRanges n = false := by decide
  have wide : ¬c.toNat < 0x80 := by
    intro small
    obtain ⟨r, hr, low, high⟩ := inRanges_iff.1 digit
    obtain rfl := ascii r hr (Nat.lt_of_le_of_lt low small)
    rw [decimalValue?, if_pos small, if_pos ⟨low, high⟩] at h
    exact absurd h nofun
  have blank : isWideBlank c = false := by
    by_contra blank
    rw [Bool.not_eq_false, isWideBlank, List.contains_iff_mem] at blank
    exact absurd (digit.symm.trans (apart _ blank)) nofun
  rw [plainChar, if_neg (by omega), blank, if_neg Bool.false_ne_true, h]

/-- A decimal digit of any script counts as a digit. -/
theorem isDigit_of_decimalValue? (h : decimalValue? c = some d) : isDigit c := by
  have ascii : (0x30, 0x39) ∈ digitRanges := by decide
  have scripts : ∀ z ∈ decimalZeros, ∃ r ∈ digitRanges, r.1 ≤ z ∧ z + 9 ≤ r.2 := by
    decide +kernel
  rw [isDigit, inRanges_iff]
  rw [decimalValue?] at h
  split at h
  · split at h
    · rename_i range
      exact ⟨_, ascii, range⟩
    · exact absurd h nofun
  · obtain ⟨z, found, -⟩ := Option.map_eq_some_iff.1 h
    obtain ⟨r, hr, low, high⟩ := scripts z (List.mem_of_find?_eq_some found)
    have near := List.find?_some found
    simp only [Bool.and_eq_true, decide_eq_true_eq] at near
    exact ⟨r, hr, Nat.le_trans low near.1, by omega⟩

theorem digitValue?_digitChar (h : d < 10) : digitValue? 10 (Nat.digitChar d) = some d := by
  have all : ∀ d < 10, digitValue? 10 (Nat.digitChar d) = some d := by decide
  exact all d h

/-! ## Rows of digits -/

theorem Spells.exists_digits {cs : List Char} {n : Nat} (h : Spells cs n) :
    ∃ ds : List Nat, ds ≠ [] ∧ cs.map decimalValue? = ds.map some ∧ ofDigits 10 ds = n := by
  induction h with
  | @digit c d h => exact ⟨[d], List.cons_ne_nil _ _, by simp [h], by simp [ofDigits]⟩
  | @snoc cs n c d front h ih =>
    obtain ⟨ds, -, values, rfl⟩ := ih
    refine ⟨ds ++ [d], by simp, by simp [values, h], ?_⟩
    rw [ofDigits, List.foldl_append]
    rfl

/-- A numeral is made of decimal digits, and there is at least one. -/
theorem Spells.decimal {cs : List Char} {n : Nat} (h : Spells cs n) :
    cs ≠ [] ∧ ∀ c ∈ cs, ∃ d, decimalValue? c = some d := by
  induction h with
  | @digit c d h => exact ⟨List.cons_ne_nil _ _, by simp [h]⟩
  | @snoc cs n c d front h ih =>
    refine ⟨by simp, ?_⟩
    simpa [or_imp, forall_and, h] using ih.2

theorem spells_of_digits {cs : List Char} (ds : List Nat) (ne : ds ≠ [])
    (values : cs.map decimalValue? = ds.map some) : Spells cs (ofDigits 10 ds) := by
  induction ds using List.reverseRecOn generalizing cs with
  | nil => exact absurd rfl ne
  | append_singleton ds d ih =>
    rw [List.map_append] at values
    obtain ⟨front, last, rfl, hfront, hlast⟩ := List.map_eq_append_iff.1 values
    obtain ⟨c, rfl, hc⟩ := List.map_eq_singleton_iff.1 hlast
    cases ds with
    | nil =>
      obtain rfl : front = [] := by simpa using hfront
      simpa [ofDigits] using Spells.digit hc
    | cons e ds =>
      have spelled := (ih (List.cons_ne_nil _ _) hfront).snoc hc
      rw [ofDigits, List.foldl_append]
      exact spelled

theorem map_plainChar {cs : List Char} {ds : List Nat}
    (values : cs.map decimalValue? = ds.map some) : cs.map plainChar = ds.map Nat.digitChar := by
  induction cs generalizing ds with
  | nil =>
    obtain rfl : ds = [] := by simpa using values.symm
    rfl
  | cons c cs ih =>
    cases ds with
    | nil => simp at values
    | cons d ds =>
      rw [List.map_cons, List.map_cons, List.cons.injEq] at values
      rw [List.map_cons, List.map_cons, plainChar_of_decimalValue? values.1, ih values.2]

theorem digits_lt {cs : List Char} {ds : List Nat}
    (values : cs.map decimalValue? = ds.map some) : ∀ d ∈ ds, d < 10 := by
  intro d hd
  have there : some d ∈ cs.map decimalValue? := values ▸ List.mem_map_of_mem hd
  obtain ⟨c, -, hc⟩ := List.mem_map.1 there
  exact decimalValue?_lt hc

/-! ## Reading -/

theorem scanDigits_digits {ds : List Nat} (h : ∀ d ∈ ds, d < 10) (after : Bool) :
    scanDigits 10 after (ds.map Nat.digitChar) = (ds, ds.isEmpty && !after, []) := by
  induction ds generalizing after with
  | nil => rfl
  | cons d ds ih =>
    obtain ⟨hd, hds⟩ := List.forall_mem_cons.1 h
    rw [List.map_cons, scanDigits, digitValue?_digitChar hd, ih hds]
    simp

theorem dropMarker_ten (cs : List Char) : dropMarker 10 cs = cs := by
  unfold dropMarker
  split
  · exact if_neg nofun
  · rfl

theorem dropWhile_isAsciiBlank {cs : List Char} (h : ∀ c ∈ cs, isAsciiBlank c = false) :
    cs.dropWhile isAsciiBlank = cs := by
  cases cs with
  | nil => rfl
  | cons c cs =>
    refine List.dropWhile_cons_of_neg ?_
    rw [h c List.mem_cons_self]
    exact Bool.false_ne_true

/-- A text without blanks is read if all that follows its sign is digits, and not too many. -/
theorem readInteger_eq_ok_iff {s : String} {n : Int} {negative : Bool} {cs : List Char}
    (visible : ∀ c ∈ s.toList.map plainChar, isAsciiBlank c = false)
    (sign : splitSign (s.toList.map plainChar) = (negative, cs)) :
    readInteger 10 s = .ok n ↔
      (scanDigits 10 false cs).2.1 = false ∧
      (scanDigits 10 false cs).1.length ≤ maxDigits ∧
      (scanDigits 10 false cs).2.2.all isAsciiBlank ∧
      n = if negative then -(ofDigits 10 (scanDigits 10 false cs).1 : Int)
        else ofDigits 10 (scanDigits 10 false cs).1 := by
  rw [readInteger, dropWhile_isAsciiBlank visible]
  simp only [sign, dropMarker_ten]
  rcases scanDigits 10 false cs with ⟨digits, misplaced, rest⟩
  cases misplaced with
  | true => simp
  | false =>
    by_cases short : digits.length ≤ maxDigits
    · have notLong : decide (maxDigits < digits.length) = false := by simpa using short
      cases rest.all isAsciiBlank with
      | true => simp [notLong, short, eq_comm]
      | false => simp [notLong]
    · have long : decide (maxDigits < digits.length) = true := by simpa using short
      simp [long, short]

/-- What characters that count as digits are read as. -/
def IsPlainDigit (c : Char) : Prop := (∃ d < 10, c = Nat.digitChar d) ∨ c = '?'

/-- What is read of a digit is neither blank nor a sign. -/
theorem IsPlainDigit.visible (h : IsPlainDigit c) :
    isAsciiBlank c = false ∧ c ≠ '-' ∧ c ≠ '+' := by
  have digits : ∀ d < 10, isAsciiBlank (Nat.digitChar d) = false ∧
    Nat.digitChar d ≠ '-' ∧ Nat.digitChar d ≠ '+' := by decide
  rcases h with ⟨d, hd, rfl⟩ | rfl
  · exact digits d hd
  · decide

theorem splitSign_of_plainDigits {cs : List Char} (h : ∀ c ∈ cs, IsPlainDigit c) :
    splitSign cs = (false, cs) := by
  unfold splitSign
  split
  · exact absurd rfl (h _ List.mem_cons_self).visible.2.1
  · exact absurd rfl (h _ List.mem_cons_self).visible.2.2
  · rfl

/-- **A numeral is read as its number**, and with a minus sign in front as its negative. -/
theorem readInteger_of_spells {cs : List Char} {n : Nat} (h : Spells cs n)
    (short : cs.length ≤ maxDigits) (s : String) :
    (s.toList = cs → readInteger 10 s = .ok n) ∧
    (s.toList = '-' :: cs → readInteger 10 s = .ok (-(n : Int))) := by
  obtain ⟨ds, ne, values, rfl⟩ := h.exists_digits
  have lt := digits_lt values
  have plain : ∀ c ∈ cs.map plainChar, IsPlainDigit c := by
    rw [map_plainChar values]
    intro c hc
    obtain ⟨d, hd, rfl⟩ := List.mem_map.1 hc
    exact Or.inl ⟨d, lt d hd, rfl⟩
  have length : ds.length ≤ maxDigits := by
    have same := congrArg List.length values
    rw [List.length_map, List.length_map] at same
    omega
  have scanned : scanDigits 10 false (cs.map plainChar) = (ds, false, []) := by
    rw [map_plainChar values, scanDigits_digits lt]
    cases ds with
    | nil => exact absurd rfl ne
    | cons d ds => rfl
  constructor
  · intro hs
    have visible : ∀ c ∈ s.toList.map plainChar, isAsciiBlank c = false := by
      rw [hs]
      exact fun c hc => (plain c hc).visible.1
    have sign : splitSign (s.toList.map plainChar) = (false, cs.map plainChar) := by
      rw [hs]
      exact splitSign_of_plainDigits plain
    rw [readInteger_eq_ok_iff visible sign, scanned]
    exact ⟨rfl, length, rfl, rfl⟩
  · intro hs
    have minus : s.toList.map plainChar = '-' :: cs.map plainChar := by
      rw [hs]
      rfl
    have visible : ∀ c ∈ s.toList.map plainChar, isAsciiBlank c = false := by
      rw [minus]
      exact List.forall_mem_cons.2 ⟨rfl, fun c hc => (plain c hc).visible.1⟩
    have sign : splitSign (s.toList.map plainChar) = (true, cs.map plainChar) := by
      rw [minus]
      rfl
    rw [readInteger_eq_ok_iff visible sign, scanned]
    exact ⟨rfl, length, rfl, rfl⟩

/-- The usual decimal text of a number is a numeral. -/
theorem spells_toDigits (n : Nat) : Spells (Nat.toDigits 10 n) n := by
  have values : (Nat.toDigits 10 n).map decimalValue? =
      ((Nat.toDigits 10 n).map fun c => c.toNat - '0'.toNat).map some := by
    rw [List.map_map]
    refine List.map_congr_left fun c hc => ?_
    have digit := Nat.isDigit_of_mem_toDigits (by decide) (by decide) hc
    have range : 0x30 ≤ c.toNat ∧ c.toNat ≤ 0x39 := Char.isDigit_iff_toNat.1 digit
    rw [decimalValue?, if_pos (by omega), if_pos range]
    rfl
  have spelled := spells_of_digits _ (by simp [Nat.toDigits_ne_nil]) values
  have number : ofDigits 10 ((Nat.toDigits 10 n).map fun c => c.toNat - '0'.toNat) = n := by
    have read := Nat.ofDigitChars_toDigits (b := 10) (n := n) (by decide) (by decide)
    rw [Nat.ofDigitChars] at read
    rw [ofDigits, List.foldl_map]
    simpa only [Nat.mul_comm 10] using read
  rwa [number] at spelled

/-! ## Texts that are made of digits -/

/-- A digit that belongs to no decimal script ends the digits that are read. -/
theorem question_mem_scanDigits {cs : List Char} (plain : ∀ c ∈ cs, IsPlainDigit c)
    (h : '?' ∈ cs) (after : Bool) : '?' ∈ (scanDigits 10 after cs).2.2 := by
  induction cs generalizing after with
  | nil => exact absurd h List.not_mem_nil
  | cons c cs ih =>
    obtain ⟨first, others⟩ := List.forall_mem_cons.1 plain
    rcases first with ⟨d, hd, rfl⟩ | rfl
    · have differs : ∀ d < 10, '?' ≠ Nat.digitChar d := by decide
      have later := (List.mem_cons.1 h).resolve_left (differs d hd)
      rw [scanDigits, digitValue?_digitChar hd]
      exact ih others later true
    · have none : digitValue? 10 '?' = none := by decide
      rw [scanDigits, none]
      exact List.mem_cons_self

/-- **Of the texts whose characters count as digits, numerals are read and others are not.** -/
theorem exists_readInteger_iff {s : String} (ne : s.toList ≠ [])
    (digits : ∀ c ∈ s.toList, isDigit c) :
    (∃ n, readInteger 10 s = .ok n) ↔ s.toList.length ≤ maxDigits ∧ ∃ n, Spells s.toList n := by
  constructor
  · rintro ⟨n, read⟩
    have plain : ∀ c ∈ s.toList.map plainChar, IsPlainDigit c := by
      intro p hp
      obtain ⟨c, hc, rfl⟩ := List.mem_map.1 hp
      cases h : decimalValue? c with
      | some d => exact Or.inl ⟨d, decimalValue?_lt h, plainChar_of_decimalValue? h⟩
      | none => exact Or.inr (plainChar_of_isDigit (digits c hc) h)
    obtain ⟨-, short, blank, -⟩ := (readInteger_eq_ok_iff (fun c hc => (plain c hc).visible.1)
      (splitSign_of_plainDigits plain)).1 read
    have decimal : ∀ c ∈ s.toList, ∃ d, decimalValue? c = some d := by
      intro c hc
      rw [← Option.isSome_iff_exists, ← Option.ne_none_iff_isSome]
      intro none
      have there : '?' ∈ s.toList.map plainChar :=
        plainChar_of_isDigit (digits c hc) none ▸ List.mem_map_of_mem hc
      have rest := List.all_eq_true.1 blank _ (question_mem_scanDigits plain there false)
      exact absurd rest (by decide)
    have values : s.toList.map decimalValue? =
        (s.toList.map fun c => (decimalValue? c).getD 0).map some := by
      rw [List.map_map]
      refine List.map_congr_left fun c hc => ?_
      obtain ⟨d, hd⟩ := decimal c hc
      simp [hd]
    refine ⟨?_, _, spells_of_digits _ (by simpa using ne) values⟩
    rw [map_plainChar values, scanDigits_digits (digits_lt values)] at short
    simpa using short
  · rintro ⟨short, n, spelled⟩
    exact ⟨n, (readInteger_of_spells spelled short s).1 rfl⟩

end Number
end FixBindings
