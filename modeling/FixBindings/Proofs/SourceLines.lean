import FixBindings.Java.Source
import Mathlib.Data.List.Infix

/-!
# Lines of a source text

A source text is put together from lines, and what is read off a text is read line by line: a line
counts if it begins with some mark behind its blanks (`Java.marked?`).  That other lines do not
count shows in their first words alone.  `Java.Apart` texts differ before either of them ends, and
this is kept by all that is appended to them, so it is checked on a few words and holds of the whole
line whatever names occur in it (`Silent.append`).
-/

set_option autoImplicit false

namespace FixBindings
namespace Java

/-! ## Lines -/

theorem joinLines_append (xs ys : List String) :
    joinLines (xs ++ ys) = joinLines xs ++ joinLines ys := by
  simp [joinLines, String.join_append]

theorem joinLines_cons (l : String) (lines : List String) :
    joinLines (l :: lines) = l ++ "\n" ++ joinLines lines := by
  simp [joinLines, String.join_cons]

theorem toList_joinLines_cons (l : String) (lines : List String) :
    (joinLines (l :: lines)).toList = l.toList ++ '\n' :: (joinLines lines).toList := by
  have newline : "\n".toList = ['\n'] := rfl
  simp [joinLines_cons, newline]

theorem toList_joinLines_append (xs ys : List String) :
    (joinLines (xs ++ ys)).toList = (joinLines xs).toList ++ (joinLines ys).toList := by
  rw [joinLines_append, String.toList_append]

theorem of_render_eq_ok {a : Artifact} {source : String} (h : render a = .ok source) :
    ∃ lines, sourceLines? a = some lines ∧ joinLines lines = source := by
  rw [render] at h
  split at h
  · exact absurd h nofun
  · rename_i lines hlines
    split at h
    · exact ⟨lines, hlines, Except.ok.inj h⟩
    · exact absurd h nofun

theorem mem_joinLines {lines : List String} {c : Char} (h : c ∈ (joinLines lines).toList) :
    c = '\n' ∨ ∃ l ∈ lines, c ∈ l.toList := by
  induction lines with
  | nil => exact absurd h List.not_mem_nil
  | cons l rest ih =>
    rw [toList_joinLines_cons, List.mem_append, List.mem_cons] at h
    rcases h with h | rfl | h
    · exact Or.inr ⟨l, List.mem_cons_self, h⟩
    · exact Or.inl rfl
    · exact (ih h).imp_right fun ⟨m, hm, hc⟩ => ⟨m, List.mem_cons_of_mem l hm, hc⟩

/-- Lines of a text are found again. -/
theorem splitOn_joinLines {lines : List String} (h : ∀ l ∈ lines, '\n' ∉ l.toList) :
    (joinLines lines).toList.splitOn '\n' = lines.map String.toList ++ [[]] := by
  induction lines with
  | nil => rfl
  | cons l rest ih =>
    obtain ⟨own, others⟩ := List.forall_mem_cons.1 h
    have apart : ∀ c ∈ l.toList, (c == '\n') = false := fun c hc =>
      beq_eq_false_iff_ne.2 fun same => own (same ▸ hc)
    rw [toList_joinLines_cons, List.splitOn,
      List.splitOnP_append_cons_of_forall_mem apart _ (beq_self_eq_true _), ← List.splitOn,
      ih others, List.map_cons, List.cons_append]

theorem line_zero (text : String) : line 0 text = text := by
  simp [line, indent]

/-! ## Lines with a mark -/

/-- Neither of two texts begins with the other. -/
def Apart (xs ys : List Char) : Prop := ¬xs <+: ys ∧ ¬ys <+: xs

instance (xs ys : List Char) : Decidable (Apart xs ys) := inferInstanceAs (Decidable (_ ∧ _))

theorem Apart.append {xs ys : List Char} (h : Apart xs ys) (zs : List Char) :
    Apart xs (ys ++ zs) := by
  refine ⟨fun front => ?_, fun whole => h.2 ((List.prefix_append ys zs).trans whole)⟩
  rcases List.prefix_or_prefix_of_prefix front (List.prefix_append ys zs) with short | long
  · exact h.1 short
  · exact h.2 long

theorem Apart.append_left {xs ys : List Char} (h : Apart xs ys) (zs : List Char) :
    Apart (zs ++ xs) (zs ++ ys) :=
  ⟨mt (List.prefix_append_right_inj zs).1 h.1, mt (List.prefix_append_right_inj zs).1 h.2⟩

/-- A text is divided at its first separator. -/
theorem divide_at {c : Char} {w : List Char} (hw : c ∉ w) (xs : List Char) :
    (w ++ c :: xs).takeWhile (· != c) = w ∧ (w ++ c :: xs).dropWhile (· != c) = c :: xs := by
  have others : ∀ d ∈ w, (d != c) = true := by
    intro d hd
    rw [bne_iff_ne]
    rintro rfl
    exact hw hd
  rw [List.takeWhile_append_of_pos others, List.dropWhile_append_of_pos others]
  simp

/-- What precedes the first separator is determined, and so is what follows it. -/
theorem append_separator_inj {c : Char} {s t x y : List Char} (hs : c ∉ s) (ht : c ∉ t)
    (h : s ++ c :: x = t ++ c :: y) : s = t ∧ x = y := by
  have front := congrArg (List.takeWhile (· != c)) h
  have rest := congrArg (List.dropWhile (· != c)) h
  rw [(divide_at hs x).1, (divide_at ht y).1] at front
  rw [(divide_at hs x).2, (divide_at ht y).2] at rest
  exact ⟨front, (List.cons.inj rest).2⟩

/-- Texts are apart if they are apart behind their first words. -/
theorem Apart.behind_words {u w xs ys : List Char} (hu : ' ' ∉ u) (hw : ' ' ∉ w)
    (h : Apart xs ys) : Apart (u ++ ' ' :: xs) (w ++ ' ' :: ys) := by
  constructor
  · rintro ⟨rest, same⟩
    rw [List.append_assoc, List.cons_append] at same
    exact h.1 ⟨rest, (append_separator_inj hu hw same).2⟩
  · rintro ⟨rest, same⟩
    rw [List.append_assoc, List.cons_append] at same
    exact h.2 ⟨rest, (append_separator_inj hw hu same).2⟩

/-- What a line begins with that declares something static of a kind. -/
def staticMark (kind : String) : List Char :=
  "public ".toList ++ ("static".toList ++ ' ' :: kind.toList)

/-- What stands behind a mark, if a line begins with it behind its blanks. -/
def marked? (mark l : List Char) : Option (List Char) :=
  mark.isPrefixOf? (l.dropWhile (· == ' '))

/-- A text that begins differently from a mark, and with no blank. -/
structure Silent (mark : List Char) (s : String) : Prop where
  starts : s.toList.head? ≠ some ' '
  apart : Apart mark s.toList

instance (mark : List Char) (s : String) : Decidable (Silent mark s) :=
  decidable_of_iff (s.toList.head? ≠ some ' ' ∧ Apart mark s.toList)
    ⟨fun h => ⟨h.1, h.2⟩, fun h => ⟨h.1, h.2⟩⟩

section Marks

variable {mark : List Char} {text : String}

theorem Silent.append (h : Silent mark text) (t : String) : Silent mark (text ++ t) := by
  refine ⟨?_, ?_⟩
  · rw [String.toList_append]
    cases cs : text.toList with
    | nil => exact absurd List.nil_prefix (cs ▸ h.apart.2)
    | cons c rest => simpa [cs] using h.starts
  · rw [String.toList_append]
    exact h.apart.append _

theorem dropWhile_line (level : Nat) (starts : text.toList.head? ≠ some ' ') :
    (line level text).toList.dropWhile (· == ' ') = text.toList := by
  rw [line, indent, String.toList_append, String.toList_ofList, List.dropWhile_append_of_pos
    fun c hc => by simp [List.eq_of_mem_replicate hc]]
  cases cs : text.toList with
  | nil => rfl
  | cons c rest =>
    have visible : c ≠ ' ' := by simpa [cs] using starts
    simp [visible]

/-- A line that begins differently does not count, at any level. -/
theorem Silent.marked? (h : Silent mark text) (level : Nat) :
    Java.marked? mark (line level text).toList = none := by
  rw [Java.marked?, dropWhile_line level h.starts, Option.eq_none_iff_forall_ne_some]
  intro rest found
  exact h.apart.1 ⟨rest, List.isPrefixOf?_eq_some_iff_append_eq.1 found⟩

theorem Silent.marked?_flush (h : Silent mark text) : Java.marked? mark text.toList = none := by
  simpa only [line_zero] using h.marked? 0

/-- What stands behind the mark is found, at any level. -/
theorem marked?_static {kind : String} {rest : List Char} (level : Nat)
    (h : text.toList = staticMark kind ++ rest) :
    Java.marked? (staticMark kind) (line level text).toList = some rest := by
  have starts : text.toList.head? ≠ some ' ' := by
    unfold staticMark at h
    simp [h]
  rw [Java.marked?, dropWhile_line level starts, h, List.isPrefixOf?_eq_some_iff_append_eq.2 rfl]

end Marks

/-- What is public declares nothing static of a kind, whatever the word behind `public` is, if it is
not the kind that follows this word. -/
theorem silent_public {kind word tail : String} (hword : ' ' ∉ word.toList)
    (blank : tail.toList.head? = some ' ') (other : Apart kind.toList tail.toList.tail) :
    Silent (staticMark kind) ("public " ++ word ++ tail) := by
  obtain ⟨rest, ht⟩ : ∃ rest, tail.toList = ' ' :: rest := by
    cases cs : tail.toList with
    | nil => simp [cs] at blank
    | cons c rest => exact ⟨rest, by simpa [cs] using blank⟩
  have text : ("public " ++ word ++ tail).toList =
      "public ".toList ++ (word.toList ++ ' ' :: rest) := by simp [ht]
  rw [ht, List.tail_cons] at other
  refine ⟨by rw [text]; simp, ?_⟩
  unfold staticMark
  rw [text]
  exact (other.behind_words (by decide) hword).append_left _

end Java
end FixBindings
