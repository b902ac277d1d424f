import FixBindings.Proofs.CaseMapping
import FixBindings.Proofs.Declarations

/-!
# Class names of joined names

A class name is made of the words of a name, each of which opens with a capital
(`Naming.titleChars_eq_words`).  The words of two names joined by a separator are those of the one
and then those of the other, so the class names are joined by putting them side by side.  This is
how a message has the class name of its name and its scenario, joined by an underscore.

A class name holds no separator and so is a single word itself, of which a further class name
differs in the first character at most.  It does not differ there either, since capitals are their
own capitals: `Unicode.upperImage_of_mem_upperImage` checks the tables of case mapping for it, run
against run and not code point by code point.
-/

set_option autoImplicit false

namespace FixBindings

/-! ## Capitals are their own capitals -/

namespace Unicode

variable {c d : Char}

/-- Whether no image under `r` is in step with `s`. -/
def CaseRun.isOutOfStep (r s : CaseRun) : Bool :=
  (r.first == r.last || r.step % s.step == 0) && r.image % s.step != s.first % s.step

/-- Whether ascending runs hold no image under `r`: they end before the images, begin after them
or are out of step with them. -/
def CaseRun.isClearOf (r : CaseRun) : List CaseRun → Bool
  | [] => true
  | s :: rest =>
    Nat.blt (r.image + (r.last - r.first)) s.first ||
      ((Nat.blt s.last r.image || r.isOutOfStep s) && r.isClearOf rest)

/-- Whether a code point lies before or after all images under `r`. -/
def CaseRun.isAround (r : CaseRun) (n : Nat) : Bool :=
  Nat.blt n r.image || Nat.blt (r.image + (r.last - r.first)) n

theorem CaseRun.image?_eq_none_of_isOutOfStep {r s : CaseRun} (apart : r.isOutOfStep s) {c n : Nat}
    (image : r.image? c = some n) : s.image? n = none := by
  obtain ⟨⟨low, high, own⟩, rfl⟩ := image?_eq_some_iff.1 image
  refine Option.eq_none_iff_forall_ne_some.2 fun m held => ?_
  obtain ⟨⟨begun, -, k, hk⟩, -⟩ := image?_eq_some_iff.1 held
  simp only [isOutOfStep, Bool.and_eq_true, Bool.or_eq_true, beq_iff_eq, bne_iff_ne] at apart
  have moved : s.step ∣ c - r.first := by
    rcases apart.1 with single | steps
    · rw [show c - r.first = 0 by omega]
      exact Nat.dvd_zero _
    · exact Nat.dvd_trans (Nat.dvd_of_mod_eq_zero steps) own
  -- the image is so many steps of `s` from the first image, and from the first code point of `s`
  obtain ⟨j, hj⟩ := moved
  have same : r.image + s.step * j = s.first + s.step * k := by omega
  refine apart.2 ?_
  rw [← Nat.add_mul_mod_self_left r.image, same, Nat.add_mul_mod_self_left]

theorem CaseRun.lookupRun_of_isClearOf {r : CaseRun} {runs : List CaseRun}
    (clear : r.isClearOf runs) {c n : Nat} (image : r.image? c = some n) :
    lookupRun n runs = none := by
  obtain ⟨⟨low, high, -⟩, moved⟩ := image?_eq_some_iff.1 image
  induction runs with
  | nil => rfl
  | cons s rest ih =>
    simp only [isClearOf, Bool.or_eq_true, Bool.and_eq_true, Nat.blt_eq] at clear
    rw [lookupRun]
    split
    · rfl
    · rename_i begun
      obtain ⟨apart, further⟩ := clear.resolve_left (by omega)
      rw [Option.or_eq_none_iff]
      refine ⟨?_, ih further⟩
      rcases apart with before | outOfStep
      · rw [CaseRun.image?, if_neg (by omega)]
      · exact image?_eq_none_of_isOutOfStep outOfStep image

/-- The character of a code point that is in no table is its own image. -/
theorem upperImage_ofNat {n : Nat} (run : lookupRun n upperRuns = none)
    (expansion : upperExpansions.lookup n = none) :
    upperImage (Char.ofNat n) = [Char.ofNat n] := by
  rcases toNat_ofNat_or n with same | nul
  · rw [upperImage, same, run, expansion]
  · rw [nul]
    decide

/-- **Every character of an image is its own image**: upper case is in upper case. -/
theorem upperImage_of_mem_upperImage (h : d ∈ upperImage c) : upperImage d = [d] := by
  have runs : ∀ r ∈ upperRuns, r.isClearOf upperRuns := by decide +kernel
  have around : ∀ r ∈ upperRuns, upperExpansions.all fun e => r.isAround e.1 := by decide +kernel
  have expansions : ∀ e ∈ upperExpansions, ∀ n ∈ e.2,
      lookupRun n upperRuns = none ∧ upperExpansions.lookup n = none := by decide +kernel
  rcases mem_tableImage h with
    ⟨r, hr, n, image, rfl⟩ | ⟨images, himages, n, hn, rfl⟩ | ⟨⟨run, expansion⟩, rfl⟩
  · refine upperImage_ofNat (r.lookupRun_of_isClearOf (runs r hr) image) ?_
    obtain ⟨⟨low, high, -⟩, moved⟩ := CaseRun.image?_eq_some_iff.1 image
    refine List.lookup_eq_none_iff.2 fun e he => bne_iff_ne.2 ?_
    have outside := List.all_eq_true.1 (around r hr) e he
    simp only [CaseRun.isAround, Bool.or_eq_true, Nat.blt_eq] at outside
    omega
  · obtain ⟨run, expansion⟩ := expansions (c.toNat, images) himages n hn
    exact upperImage_ofNat run expansion
  · rw [upperImage, run, expansion]

end Unicode

/-! ## Words -/

namespace Naming

/-- A word with its first character in upper case. -/
def capitalize : List Char → List Char
  | [] => []
  | c :: rest => Unicode.upperImage c ++ rest

/-- What is left of a name from within a word or from its beginning, by its words. -/
theorem titleChars_of_splitOnP {cs first : List Char} {words : List (List Char)}
    (h : cs.splitOnP isSeparator = first :: words) (start : Bool) :
    titleChars start cs =
      (if start then capitalize first else first) ++ words.flatMap capitalize := by
  induction cs generalizing first words start with
  | nil =>
    obtain ⟨rfl, rfl⟩ := List.cons.inj (h.symm.trans List.splitOnP_nil)
    cases start <;> rfl
  | cons c rest ih =>
    obtain ⟨next, others, split⟩ := List.exists_cons_of_ne_nil
      (List.splitOnP_ne_nil isSeparator rest)
    rw [List.splitOnP_cons_eq_if_modifyHead, split] at h
    rw [titleChars]
    split
    · rename_i separator
      rw [if_pos separator] at h
      obtain ⟨rfl, rfl⟩ := List.cons.inj h
      rw [ih split true]
      cases start <;> rfl
    · rename_i inner
      rw [if_neg inner] at h
      obtain ⟨rfl, rfl⟩ := List.cons.inj h
      rw [ih split false]
      cases start <;> simp [capitalize]

/-- **A class name is the words of a name**, each with its first character in upper case. -/
theorem titleChars_eq_words (cs : List Char) :
    titleChars true cs = (cs.splitOnP isSeparator).flatMap capitalize := by
  obtain ⟨first, words, split⟩ := List.exists_cons_of_ne_nil
    (List.splitOnP_ne_nil isSeparator cs)
  rw [titleChars_of_splitOnP split, split, if_pos rfl, List.flatMap_cons]

/-- The class name of two names joined by a separator. -/
theorem titleCase_append (a b : String) {c : Char} (h : isSeparator c) :
    titleCase (a ++ String.singleton c ++ b) = titleCase a ++ titleCase b := by
  have words : titleChars true (a.toList ++ c :: b.toList) =
      titleChars true a.toList ++ titleChars true b.toList := by
    rw [titleChars_eq_words, List.splitOnP_append_cons _ _ h, List.flatMap_append,
      ← titleChars_eq_words, ← titleChars_eq_words]
  rw [titleCase, String.toList_append, String.toList_append, String.toList_singleton,
    List.append_assoc, List.singleton_append, words, String.ofList_append]
  rfl

/-- A class name begins with a capital already. -/
theorem capitalize_titleChars (cs : List Char) :
    capitalize (titleChars true cs) = titleChars true cs := by
  cases title : titleChars true cs with
  | nil => rfl
  | cons d rest =>
    obtain ⟨c, image⟩ := exists_mem_upperImage_of_head? (congrArg List.head? title)
    rw [capitalize, Unicode.upperImage_of_mem_upperImage image, List.singleton_append]

/-- A class name is its own class name. -/
theorem titleCase_titleCase (name : String) : titleCase (titleCase name) = titleCase name := by
  have single : ∀ d ∈ titleChars true name.toList, isSeparator d = false :=
    fun d hd => isSeparator_of_mem_titleChars hd
  have title : titleChars true (titleChars true name.toList) = titleChars true name.toList := by
    rw [titleChars_eq_words, List.splitOnP_eq_singleton single, List.flatMap_singleton,
      capitalize_titleChars]
  rw [titleCase, titleCase, String.toList_ofList, title]

end Naming

/-! ## Messages with a scenario -/

/-- A name that is no text has no class name. -/
theorem className_clean_iff {d : Document} : (className d).Clean ↔ d.isText := by
  refine ⟨fun clean => ?_, className_clean⟩
  cases d with
  | text s => rfl
  | _ => exact absurd (List.mem_append_left _ (List.mem_singleton_self _)) (clean _)

/-- A message that is not the canonical one has a class name exactly where its name and its
scenario are texts, and it is the class name of both joined by an underscore. -/
theorem Message.className_eq_ok_iff {m : Message} (other : m.isBase = false) {ledger : Ledger}
    {s : String} : (m.className.run ledger).1 = .ok s ↔ ∃ name scenario : String,
      m.name = .text name ∧ m.scenario = .text scenario ∧
        s = Naming.titleCase (name ++ "_" ++ scenario) := by
  have underscore : "_" = String.singleton '_' := by decide
  have joined : ∀ name scenario : String, Naming.titleCase (name ++ "_" ++ scenario) =
      Naming.titleCase name ++ Naming.titleCase scenario := fun name scenario => by
    rw [underscore, Naming.titleCase_append name scenario rfl]
  rw [Traced.run_eq_ok_iff, Message.className, other]
  simp only [Bool.false_eq_true, if_false, Traced.clean_bind, Traced.clean_pure, and_true,
    className_clean_iff, Traced.value_bind, Traced.value_pure]
  constructor
  · rintro ⟨⟨hname, hscenario⟩, rfl⟩
    obtain ⟨name, hname⟩ := Document.isText_iff.1 hname
    obtain ⟨scenario, hscenario⟩ := Document.isText_iff.1 hscenario
    refine ⟨name, scenario, hname, hscenario, ?_⟩
    rw [joined, hname, hscenario]
    rfl
  · rintro ⟨name, scenario, hname, hscenario, rfl⟩
    rw [joined, hname, hscenario]
    exact ⟨⟨rfl, rfl⟩, rfl⟩

namespace Naming

/-- **Class names of joined names are joined.**  The class name of two names with a separator
between them is that of the one and that of the other side by side; no separator is left in a
class name, and a class name is its own class name.  So a message that is not the canonical one
has the class name of its name and its scenario with an underscore between them, provided that
both are texts, and no class name otherwise. -/
theorem class_names_compose :
    (∀ (a b : String) (c : Char), c = '_' ∨ c = ' ' →
      titleCase (a ++ String.singleton c ++ b) = titleCase a ++ titleCase b) ∧
    (∀ a : String, '_' ∉ (titleCase a).toList ∧ ' ' ∉ (titleCase a).toList) ∧
    (∀ a : String, titleCase (titleCase a) = titleCase a) ∧
    ∀ m : Message, m.isBase = false → ∀ (ledger : Ledger) (s : String),
      (m.className.run ledger).1 = .ok s ↔ ∃ name scenario : String,
        m.name = .text name ∧ m.scenario = .text scenario ∧
          s = titleCase (name ++ "_" ++ scenario) := by
  refine ⟨fun a b c separator => titleCase_append a b ?_,
    fun a => ⟨separator_notMem_titleCase rfl a, separator_notMem_titleCase rfl a⟩,
    titleCase_titleCase, fun m other ledger s => m.className_eq_ok_iff other⟩
  rcases separator with rfl | rfl
  · rfl
  · rfl

/-- A message that is told apart by its scenario. -/
def limitOrder : Message := { name := "new_order", msgType := "D", scenario := "ßtop limit" }

theorem class_names_compose_limitOrder :
    titleCase ("new_order" ++ String.singleton ' ' ++ "_ßtop") = "NewOrderSStop" ∧
    '_' ∉ (titleCase "_ßtop").toList ∧ titleCase (titleCase "_ßtop") = titleCase "_ßtop" ∧
    limitOrder.isBase = false ∧
    (limitOrder.className.run []).1 = .ok (titleCase "new_order_ßtop limit") := by
  obtain ⟨joined, separators, again, messages⟩ := class_names_compose
  refine ⟨?_, (separators "_ßtop").1, again "_ßtop", rfl, ?_⟩
  · rw [joined "new_order" "_ßtop" ' ' (Or.inr rfl)]
    decide
  · exact (messages limitOrder rfl [] _).2 ⟨"new_order", "ßtop limit", rfl, rfl, rfl⟩

end Naming
end FixBindings
