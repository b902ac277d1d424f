import FixBindings.CommandLine.Run
import FixBindings.Proofs.FirstFaults
import FixBindings.Proofs.IntegerLiterals

/-!
# Malformed element trees

An element tree that is no repository is to be told to the user as such.  Attributes that are
lacking and ids that have to be integers are told, whatever they hold.  An id that may be lacking
is overlooked: it is taken for an integer if all of its characters count as digits, and not each
such text is a numeral.

`Overlooks` says which element trees these are, and `malformed_elements_reported_iff` that there are
no others.
-/

set_option autoImplicit false

namespace FixBindings
namespace Orchestra

open Xml (Element)

/-- A fault that the user is not told of. -/
def Fault.Escapes (f : Fault) : Prop := CommandLine.isToldSource (.orchestra f) = false

@[simp] theorem escapes_iff {f : Fault} : f.Escapes ↔ ∃ fault, f = .document fault := by
  cases f <;> simp [Fault.Escapes, CommandLine.isToldSource]

/-! ## Attributes -/

section Attributes

variable {e : Element}

/-- An id whose characters all count as digits, and which is no numeral or is too long. -/
def UnreadId (e : Element) : Prop :=
  ∃ raw, e.attribute? "id" = some raw ∧ isDigits raw ∧
    ¬(raw.toList.length ≤ Number.maxDigits ∧ ∃ n, Number.Spells raw.toList n)

theorem not_failsWith_required (key : String) : ¬FailsWith Fault.Escapes (required e key) := by
  rw [required]
  split <;> simp

theorem not_failsWith_requiredInteger (key : String) :
    ¬FailsWith Fault.Escapes (requiredInteger e key) := by
  refine not_failsWith_seq (not_failsWith_required key) fun raw => ?_
  split <;> simp

theorem isDigits_iff {s : String} :
    isDigits s ↔ s.toList ≠ [] ∧ ∀ c ∈ s.toList, Unicode.isDigit c := by
  simp [isDigits]

theorem reads_readInteger {s quoted : String} :
    Reads (Document.readInteger s quoted) ↔ ∃ n, Number.readInteger 10 s = .ok n := by
  rw [Document.readInteger]
  split <;> simp_all [Reads]

/-- **An id that may be lacking is overlooked if it is of digits but no numeral.** -/
theorem failsWith_optionalId : FailsWith Fault.Escapes (optionalId e) ↔ UnreadId e := by
  rw [optionalId, UnreadId]
  cases e.attribute? "id" with
  | none => simp
  | some raw =>
    cases digits : isDigits raw with
    | false => simp [digits]
    | true =>
      obtain ⟨ne, each⟩ := isDigits_iff.1 digits
      have read : Reads (Document.readInteger raw (Quoted.text raw)) ↔ _ :=
        reads_readInteger.trans (Number.exists_readInteger_iff ne each)
      simp only [Option.some.injEq, exists_eq_left', digits, true_and, if_true, ← read]
      cases Document.readInteger raw (Quoted.text raw) with
      | ok n => simp [Reads]
      | error fault => simp [Reads]

/-- Reading an attribute that has to be there, and then something else, fails only in what
follows. -/
theorem failsWith_required_bind {α : Type} {key : String} {f : String → Reading α} {P : Prop}
    (h : ∀ value, FailsWith Fault.Escapes (f value) ↔ P) :
    FailsWith Fault.Escapes (required e key >>= f) ↔ (e.attribute? key).isSome ∧ P := by
  rw [failsWith_seq_of_not (not_failsWith_required key) fun value _ => h value, required]
  cases e.attribute? key <;> simp [Reads]

/-- Reading an id that may be lacking, and then something that does not fail. -/
theorem failsWith_optionalId_bind {α : Type} {f : Document → Reading α}
    (h : ∀ id, ¬FailsWith Fault.Escapes (f id)) :
    FailsWith Fault.Escapes (optionalId e >>= f) ↔ UnreadId e := by
  rw [failsWith_seq (P := False) fun id _ => iff_false_intro (h id), failsWith_optionalId]
  simp

end Attributes

/-! ## Declarations -/

section Declarations

variable {e : Element}

/-- A code is read up to its id. -/
def OverlooksCode (e : Element) : Prop :=
  (e.attribute? "name").isSome ∧ (e.attribute? "value").isSome ∧ UnreadId e

theorem failsWith_code : FailsWith Fault.Escapes (code e) ↔ OverlooksCode e := by
  refine failsWith_required_bind fun name => ?_
  refine failsWith_required_bind fun value => ?_
  exact failsWith_optionalId_bind fun id => not_failsWith_pure _

/-- A code set is read up to the id of a code or up to its own. -/
def OverlooksCodeSet (e : Element) : Prop :=
  FirstFails code OverlooksCode (e.childrenNamed "code") ∨
    Reads ((e.childrenNamed "code").mapM code) ∧ (e.attribute? "name").isSome ∧ UnreadId e

theorem failsWith_codeSet : FailsWith Fault.Escapes (codeSet e) ↔ OverlooksCodeSet e := by
  rw [OverlooksCodeSet, ← FirstFails.congr fun _ => failsWith_code, ← failsWith_mapM]
  refine failsWith_seq fun codes _ => ?_
  refine failsWith_required_bind fun name => ?_
  exact failsWith_optionalId_bind fun id => not_failsWith_pure _

theorem not_failsWith_field : ¬FailsWith Fault.Escapes (field e) := by
  refine not_failsWith_seq (not_failsWith_requiredInteger "id") fun id => ?_
  exact not_failsWith_seq (not_failsWith_required "name") fun name => not_failsWith_pure _

theorem not_failsWith_members (es : List Element) : ¬FailsWith Fault.Escapes (members es) := by
  induction es with
  | nil => exact not_failsWith_ok []
  | cons e rest ih =>
    rw [members]
    split
    · exact ih
    · refine not_failsWith_seq (not_failsWith_requiredInteger "id") fun id => ?_
      exact not_failsWith_seq ih fun ms => not_failsWith_pure _

theorem not_failsWith_component : ¬FailsWith Fault.Escapes (component e) := by
  refine not_failsWith_seq (not_failsWith_requiredInteger "id") fun id => ?_
  refine not_failsWith_seq (not_failsWith_required "name") fun name => ?_
  exact not_failsWith_seq (not_failsWith_members e.children) fun ms => not_failsWith_pure _

theorem not_failsWith_group : ¬FailsWith Fault.Escapes (group e) := by
  rw [group]
  split
  · simp
  · refine not_failsWith_seq (not_failsWith_requiredInteger "id") fun id => ?_
    refine not_failsWith_seq (not_failsWith_required "name") fun name => ?_
    refine not_failsWith_seq (not_failsWith_requiredInteger "id") fun counter => ?_
    exact not_failsWith_seq (not_failsWith_members e.children) fun ms => not_failsWith_pure _

/-- The elements within the structure of a message. -/
def structureItems (e : Element) : List Element :=
  ((e.child? "structure").map Element.children).getD []

/-- A message is read up to its id. -/
def OverlooksMessage (e : Element) : Prop :=
  (e.attribute? "name").isSome ∧ Reads (members (structureItems e)) ∧ UnreadId e

theorem failsWith_message : FailsWith Fault.Escapes (message e) ↔ OverlooksMessage e := by
  refine failsWith_required_bind fun name => ?_
  refine failsWith_seq_of_not (not_failsWith_members (structureItems e)) fun ms _ => ?_
  exact failsWith_optionalId_bind fun id => not_failsWith_pure _

end Declarations

/-! ## Repositories -/

section Repositories

variable {root : Element}

/-- An element tree is read, one section after the other, up to an id of a code, a code set or a
message that is made of digits and is no numeral. -/
def Overlooks (root : Element) : Prop :=
  root.localName = "repository" ∧
    (FirstFails codeSet OverlooksCodeSet (sectionItems root "codeSets" "codeSet") ∨
    Reads ((sectionItems root "codeSets" "codeSet").mapM codeSet) ∧
    Reads ((sectionItems root "fields" "field").mapM field) ∧
    Reads ((sectionItems root "components" "component").mapM component) ∧
    Reads ((sectionItems root "groups" "group").mapM group) ∧
    FirstFails message OverlooksMessage (sectionItems root "messages" "message"))

theorem failsWith_repository : FailsWith Fault.Escapes (repository root) ↔ Overlooks root := by
  rw [repository, Overlooks, ← FirstFails.congr fun _ => failsWith_codeSet, ← failsWith_mapM,
    ← FirstFails.congr fun _ => failsWith_message, ← failsWith_mapM]
  split
  · rename_i other
    have differs : root.localName ≠ "repository" := by simpa using other
    refine iff_of_false ?_ fun overlooks => differs overlooks.1
    show ¬FailsWith Fault.Escapes (.error (.root root.localName))
    simp
  · rename_i same
    rw [and_iff_right (by simpa using same)]
    refine failsWith_seq fun codeSets _ => ?_
    refine failsWith_seq_of_not (not_failsWith_mapM fun _ => not_failsWith_field) fun fields _ => ?_
    refine failsWith_seq_of_not (not_failsWith_mapM fun _ => not_failsWith_component)
      fun components _ => ?_
    refine failsWith_seq_of_not (not_failsWith_mapM fun _ => not_failsWith_group) fun groups _ => ?_
    rw [failsWith_seq (P := False) fun messages _ => iff_false_intro (not_failsWith_pure _)]
    simp only [and_false, or_false]

/-- An element tree is read, or the user is told why it is not. -/
def ReadOrReported (root : Element) : Prop :=
  Reads (repository root) ∨
    ∃ fault, repository root = .error fault ∧ CommandLine.isToldSource (.orchestra fault) = true

theorem readOrReported_iff :
    ReadOrReported root ↔ ¬FailsWith Fault.Escapes (repository root) :=
  reads_or_told_iff

/-- **Reading an element tree gives a repository or tells the user why there is none, unless it is
read up to an id that is made of digits and is no numeral.** -/
theorem malformed_elements_reported_iff (root : Element) :
    ReadOrReported root ↔ ¬Overlooks root := by
  rw [readOrReported_iff, failsWith_repository]

end Repositories

/-- A code set whose id is a superscript two. -/
def superscriptId : Element :=
  .node ⟨none, "codeSet"⟩ [(⟨none, "name"⟩, "S"), (⟨none, "id"⟩, "²")] []

theorem unreadId_superscriptId : UnreadId superscriptId := by
  refine ⟨"²", rfl, by decide +kernel, ?_⟩
  rintro ⟨-, n, spelled⟩
  obtain ⟨d, hd⟩ := spelled.decimal.2 '²' (by decide)
  have none : Unicode.decimalValue? '²' = none := by decide
  rw [none] at hd
  cases hd

/-- A repository of nothing but that code set. -/
def superscriptRepository : Element :=
  .node ⟨none, "repository"⟩ [] [.node ⟨none, "codeSets"⟩ [] [superscriptId]]

/-- A superscript counts as a digit but is no numeral, and the user is not told. -/
theorem not_malformed_elements_reported : ¬∀ root, ReadOrReported root := by
  intro all
  refine readOrReported_iff.1 (all superscriptRepository) (failsWith_repository.2 ⟨rfl, Or.inl ?_⟩)
  refine ⟨[], superscriptId, [], rfl, nofun, Or.inr ⟨⟨[], rfl⟩, rfl, unreadId_superscriptId⟩⟩

end Orchestra
end FixBindings
