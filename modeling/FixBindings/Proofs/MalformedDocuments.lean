import FixBindings.CommandLine.Run
import FixBindings.Proofs.FirstFaults

/-!
# Malformed documents

A document that is no repository is to be told to the user as such, so reading it should end with a
fault of the format whatever is wrong with it.  Most of what a part lacks or holds wrongly is indeed
turned into such a fault by `Repository.wholeFault`, but not an infinite number for an id, nor an
entry asked of something that is no mapping.

`Repository.Overlooks` says which documents these are: those that are read, in order, up to an
infinite number where an id belongs or up to a code set that is no mapping.
`malformed_documents_reported_iff` says that there are no others, and how reading can end.
-/

set_option autoImplicit false

namespace FixBindings

/-! ## Faults that are not told -/

/-- A fault of a part that the user is not told of. -/
def DecodeFault.Escapes (f : DecodeFault) : Prop :=
  CommandLine.isToldSource (.document (Repository.wholeFault f)) = false

/-- A fault of a document that the user is not told of. -/
def DocumentFault.Escapes (f : DocumentFault) : Prop :=
  f.kind = .missingAttribute ∨ f.kind = .overflow

@[simp] theorem not_escapes_format (f : FormatFault) : ¬(DecodeFault.format f).Escapes :=
  nofun

@[simp] theorem escapes_document_iff {f : DocumentFault} :
    (DecodeFault.document f).Escapes ↔ f.Escapes := by
  rw [DecodeFault.Escapes, DocumentFault.Escapes, Repository.wholeFault]
  cases h : f.kind <;> simp [CommandLine.isToldSource]

@[simp] theorem failsWith_liftM {α : Type} {x : Except DocumentFault α} :
    FailsWith DecodeFault.Escapes (liftM x : Decoded α) ↔ FailsWith DocumentFault.Escapes x := by
  refine failsWith_mapError.trans (exists_congr fun f => and_congr_right fun _ => ?_)
  exact escapes_document_iff

@[simp] theorem liftM_eq_ok_iff {α : Type} {x : Except DocumentFault α} {a : α} :
    (liftM x : Decoded α) = .ok a ↔ x = .ok a := by
  cases x with
  | ok b =>
    show (Except.ok b : Decoded α) = .ok a ↔ _
    rw [Except.ok.injEq, Except.ok.injEq]
  | error f => exact ⟨nofun, nofun⟩

@[simp] theorem reads_liftM {α : Type} {x : Except DocumentFault α} :
    Reads (liftM x : Decoded α) ↔ Reads x :=
  exists_congr fun _ => liftM_eq_ok_iff

theorem liftM_ok_bind {α β : Type} {a : α} {f : α → Decoded β} :
    (liftM (.ok a : Except DocumentFault α) : Decoded α) >>= f = f a :=
  rfl

/-! ## Looking into documents -/

namespace Document

variable {d : Document} {key : String}

/-- Whether a document is a mapping. -/
def isMapping : Document → Bool
  | .map _ => true
  | _ => false

/-- Whether a document is an infinite number. -/
def isInfinite : Document → Bool
  | .real x => Number.isInfinite x
  | _ => false

/-- There is something under a key that an integer is read from. -/
def IntegerAt (d : Document) (key : String) : Prop :=
  ∃ v, d.entry key = .ok v ∧ Reads v.toInteger

/-- There is an infinite number under a key. -/
def InfiniteAt (d : Document) (key : String) : Prop := ∃ v, d.entry key = .ok v ∧ v.isInfinite

/-- A document was found, and it can be written as a text. -/
def Written (x : Except DocumentFault Document) : Prop := ∃ v, x = .ok v ∧ Reads v.checkWritten

theorem isMapping_of_entry {v : Document} (h : d.entry key = .ok v) : d.isMapping := by
  cases d with
  | map entries => rfl
  | _ => simp [entry] at h

theorem entry?_eq (h : d.isMapping) : d.entry? key = .ok (d.entry key).toOption := by
  cases d with
  | map entries =>
    rw [entry, entry?]
    cases lookup? (.text key) entries <;> rfl
  | _ => exact absurd h Bool.false_ne_true

theorem not_failsWith_entry : ¬FailsWith DocumentFault.Escapes (d.entry key) := by
  cases d with
  | map entries =>
    rw [entry]
    cases lookup? (.text key) entries <;> simp [DocumentFault.Escapes, DocumentFault.kind]
  | _ => simp [entry, DocumentFault.Escapes, DocumentFault.kind]

theorem failsWith_entry? :
    (FailsWith DocumentFault.Escapes <| d.entry? key) ↔ d.isMapping = false := by
  cases d <;> simp [isMapping, entry?, DocumentFault.Escapes, DocumentFault.kind]

theorem failsWith_entryD {default : Document} :
    FailsWith DocumentFault.Escapes (d.entryD key default) ↔ d.isMapping = false := by
  rw [entryD, failsWith_bind, failsWith_entry?]
  simp

theorem not_failsWith_items : ¬FailsWith DocumentFault.Escapes d.items := by
  cases d <;> simp [items, DocumentFault.Escapes, DocumentFault.kind]

theorem not_failsWith_checkWritten : ¬FailsWith DocumentFault.Escapes d.checkWritten := by
  rw [checkWritten]
  split <;> simp [DocumentFault.Escapes, DocumentFault.kind]

theorem not_failsWith_readInteger (s quoted : String) :
    ¬FailsWith DocumentFault.Escapes (readInteger s quoted) := by
  rw [readInteger]
  split <;> simp [DocumentFault.Escapes, DocumentFault.kind]

/-- Of all documents only infinite numbers overflow. -/
theorem failsWith_toInteger : FailsWith DocumentFault.Escapes d.toInteger ↔ d.isInfinite := by
  cases d with
  | real x =>
    rw [toInteger, isInfinite, Number.isInfinite, Number.wholePart?]
    cases Number.realParts x <;> simp [DocumentFault.Escapes, DocumentFault.kind]
  | text s => exact iff_of_false (not_failsWith_readInteger _ _) Bool.false_ne_true
  | bytes octets => exact iff_of_false (not_failsWith_readInteger _ _) Bool.false_ne_true
  | _ => simp [toInteger, isInfinite, DocumentFault.Escapes, DocumentFault.kind]

theorem items_eq_nil {items : List Document} (falsy : d.truthy = false)
    (h : d.items = .ok items) : items = [] := by
  cases d <;> simp_all [truthy, Document.items]

end Document

/-! ## Members -/

open Document

/-- A member whose id is an infinite number. -/
def Member.InfiniteReference (d : Document) : Prop :=
  ∃ key value, d = .map [(key, value)] ∧ (Member.ofKey? key).isSome ∧ value.isInfinite

theorem Member.failsWith_ofDocument {d : Document} :
    FailsWith DecodeFault.Escapes (Member.ofDocument d) ↔ Member.InfiniteReference d := by
  unfold Member.ofDocument
  split
  · rename_i key value
    cases kind : Member.ofKey? key with
    | none => simp [failsWith_bind, not_failsWith_checkWritten, Member.InfiniteReference, kind]
    | some member =>
      simp only [bind_pure_comp, failsWith_map, failsWith_liftM, failsWith_toInteger]
      constructor
      · exact fun infinite => ⟨key, value, rfl, by rw [kind]; rfl, infinite⟩
      · rintro ⟨_, _, ⟨⟩, -, infinite⟩
        exact infinite
  · rename_i single
    refine iff_of_false ?_ ?_
    · simp [failsWith_bind, not_failsWith_checkWritten]
    · rintro ⟨key, value, rfl, -⟩
      exact single key value rfl

/-- The members are read up to one whose id is an infinite number. -/
def Document.InfiniteMember (d : Document) : Prop :=
  ∃ v, d.entry "members" = .ok v ∧ ∃ items, v.items = .ok items ∧
    FirstFails Member.ofDocument Member.InfiniteReference items

theorem Member.failsWith_listOfDocument {v : Document} :
    FailsWith DecodeFault.Escapes (Member.listOfDocument (some v)) ↔
      ∃ items, v.items = .ok items ∧
        FirstFails Member.ofDocument Member.InfiniteReference items := by
  simp only [Member.listOfDocument, Option.getD_some]
  cases truthy : v.truthy with
  | true =>
    simp [failsWith_bind, not_failsWith_items, failsWith_mapM, Member.failsWith_ofDocument]
  | false =>
    refine iff_of_false (by simp) ?_
    rintro ⟨items, h, first⟩
    rw [items_eq_nil truthy h] at first
    exact not_firstFails_nil first

/-! ## One entry after the other -/

section Entries

variable {α : Type} {d : Document} {key : String} {P : Prop}

/-- Reading an entry and then something else fails only in what follows. -/
theorem Document.failsWith_entry_bind {f : Document → Decoded α}
    (h : d.isMapping → ∀ v, FailsWith DecodeFault.Escapes (f v) ↔ P) :
    FailsWith DecodeFault.Escapes (liftM (d.entry key) >>= f) ↔ Reads (d.entry key) ∧ P := by
  have told : ¬FailsWith DecodeFault.Escapes (liftM (d.entry key) : Decoded Document) := by
    rw [failsWith_liftM]
    exact not_failsWith_entry
  rw [← reads_liftM]
  exact failsWith_seq_of_not told fun v hv => h (isMapping_of_entry (liftM_eq_ok_iff.1 hv)) v

/-- Reading an integer and then something else fails where the integer is infinite as well. -/
theorem Document.failsWith_integer_bind {f : Int → Decoded α}
    (h : d.isMapping → ∀ n, FailsWith DecodeFault.Escapes (f n) ↔ P) :
    FailsWith DecodeFault.Escapes (do f (← (← d.entry key).toInteger)) ↔
      d.InfiniteAt key ∨ d.IntegerAt key ∧ P := by
  cases found : d.entry key with
  | ok v =>
    have rest := failsWith_seq (x := (liftM v.toInteger : Decoded Int))
      fun n _ => h (isMapping_of_entry found) n
    rw [failsWith_liftM, failsWith_toInteger, reads_liftM] at rest
    simpa [liftM_ok_bind, InfiniteAt, IntegerAt, found] using rest
  | error e =>
    have told : ¬FailsWith DocumentFault.Escapes (.error e : Except _ Document) :=
      found ▸ not_failsWith_entry
    simp [failsWith_bind, told, InfiniteAt, IntegerAt, found]

/-- Reading a text and then something else fails only in what follows. -/
theorem Document.failsWith_written_bind {x : Except DocumentFault Document}
    {f : Document → Decoded α} (told : ¬FailsWith DocumentFault.Escapes x)
    (h : ∀ v, FailsWith DecodeFault.Escapes (f v) ↔ P) :
    FailsWith DecodeFault.Escapes (do
      let v ← x
      v.checkWritten
      f v) ↔ Written x ∧ P := by
  cases x with
  | ok v =>
    have checked : ¬FailsWith DecodeFault.Escapes (liftM v.checkWritten : Decoded Unit) := by
      rw [failsWith_liftM]
      exact not_failsWith_checkWritten
    have rest := failsWith_seq_of_not checked fun _ _ => h v
    rw [reads_liftM] at rest
    simpa [liftM_ok_bind, Written] using rest
  | error e => simp [failsWith_bind, told, Written]

/-- Reading an entry of a mapping that may be missing makes no difference. -/
theorem Document.failsWith_entryD_bind {default : Document} {f : Document → Decoded α}
    (mapping : d.isMapping) (h : ∀ v, FailsWith DecodeFault.Escapes (f v) ↔ P) :
    FailsWith DecodeFault.Escapes (liftM (d.entryD key default) >>= f) ↔ P := by
  rw [entryD, entry?_eq mapping]
  exact h _

/-- Reading the members and then something that does not fail. -/
theorem Document.failsWith_members_bind {f : List Member → Decoded α} (mapping : d.isMapping)
    (h : ∀ ms, ¬FailsWith DecodeFault.Escapes (f ms)) :
    FailsWith DecodeFault.Escapes (do f (← Member.listOfDocument (← d.entry? "members"))) ↔
      d.InfiniteMember := by
  rw [entry?_eq mapping, InfiniteMember, liftM_ok_bind]
  cases found : d.entry "members" with
  | ok v =>
    rw [Except.toOption, failsWith_bind, Member.failsWith_listOfDocument]
    simp [h]
  | error e =>
    refine iff_of_false (h []) ?_
    rintro ⟨v, ⟨⟩, -⟩

end Entries

/-! ## Declarations -/

section Declarations

variable {d : Document}

/-- A field is read up to an infinite id. -/
theorem Field.failsWith_ofDocument :
    FailsWith DecodeFault.Escapes (Field.ofDocument d) ↔ d.InfiniteAt "id" := by
  refine Iff.trans (b := d.InfiniteAt "id" ∨ d.IntegerAt "id" ∧ Reads (d.entry "name") ∧ False) ?_
    (by simp)
  refine failsWith_integer_bind fun mapping id => ?_
  refine failsWith_entry_bind fun _ name => ?_
  refine failsWith_entryD_bind mapping fun type => ?_
  exact failsWith_entryD_bind mapping fun codeSet => iff_false_intro (not_failsWith_pure _)

/-- A code is asked for its name first, so that one that is no mapping is told as such. -/
theorem Code.not_failsWith_ofDocument : ¬FailsWith DecodeFault.Escapes (Code.ofDocument d) := by
  have read : FailsWith DecodeFault.Escapes (Code.ofDocument d) ↔
      Reads (d.entry "name") ∧ Written (d.entry "value") ∧ False := by
    refine failsWith_entry_bind fun mapping name => ?_
    refine failsWith_written_bind not_failsWith_entry fun value => ?_
    exact failsWith_entryD_bind mapping fun id => iff_false_intro (not_failsWith_pure _)
  exact fun fails => (read.1 fails).2.2

/-- A code set is asked for its codes first, which it may lack, so that one that is no mapping is
not told as such. -/
theorem CodeSet.failsWith_ofDocument :
    FailsWith DecodeFault.Escapes (CodeSet.ofDocument d) ↔ d.isMapping = false := by
  cases mapping : d.isMapping with
  | false =>
    refine iff_of_true (failsWith_bind.2 (Or.inl ?_)) rfl
    exact failsWith_liftM.2 (failsWith_entryD.2 mapping)
  | true =>
    -- once it is a mapping, neither its codes nor its other entries give rise to such a fault
    refine iff_of_false ?_ Bool.true_eq_false.mp
    have read : FailsWith DecodeFault.Escapes (CodeSet.ofDocument d) ↔ False := by
      refine failsWith_entryD_bind mapping fun codes => ?_
      refine iff_false_intro (not_failsWith_seq ?_ fun items => ?_)
      · rw [failsWith_liftM]
        exact not_failsWith_items
      refine not_failsWith_seq (not_failsWith_mapM fun _ => Code.not_failsWith_ofDocument)
        fun codes fails => ?_
      refine ((failsWith_entry_bind (P := False) fun _ name => ?_).1 fails).2
      refine failsWith_entryD_bind mapping fun type => ?_
      exact failsWith_entryD_bind mapping fun id => iff_false_intro (not_failsWith_pure _)
    exact read.1

/-- A component is read up to an infinite number. -/
def Component.Overlooks (d : Document) : Prop :=
  d.InfiniteAt "id" ∨ d.IntegerAt "id" ∧ Reads (d.entry "name") ∧ d.InfiniteMember

theorem Component.failsWith_ofDocument :
    FailsWith DecodeFault.Escapes (Component.ofDocument d) ↔ Component.Overlooks d := by
  refine failsWith_integer_bind fun mapping id => ?_
  refine failsWith_entry_bind fun _ name => ?_
  exact failsWith_members_bind mapping fun members => not_failsWith_pure _

/-- A group is read up to an infinite number. -/
def Group.Overlooks (d : Document) : Prop :=
  d.InfiniteAt "id" ∨ d.IntegerAt "id" ∧ Reads (d.entry "name") ∧
    (d.InfiniteAt "num_in_group" ∨ d.IntegerAt "num_in_group" ∧ d.InfiniteMember)

theorem Group.failsWith_ofDocument :
    FailsWith DecodeFault.Escapes (Group.ofDocument d) ↔ Group.Overlooks d := by
  refine failsWith_integer_bind fun mapping id => ?_
  refine failsWith_entry_bind fun _ name => ?_
  refine failsWith_integer_bind fun _ counter => ?_
  exact failsWith_members_bind mapping fun members => not_failsWith_pure _

/-- A message is read up to an infinite number. -/
def Message.Overlooks (d : Document) : Prop :=
  Reads (d.entry "name") ∧ Written (d.entry "msg_type") ∧ d.InfiniteMember

theorem Message.failsWith_ofDocument :
    FailsWith DecodeFault.Escapes (Message.ofDocument d) ↔ Message.Overlooks d := by
  refine failsWith_entry_bind fun mapping name => ?_
  refine failsWith_written_bind not_failsWith_entry fun msgType => ?_
  refine failsWith_entryD_bind mapping fun category => ?_
  refine failsWith_entryD_bind mapping fun scenario => ?_
  refine failsWith_members_bind mapping fun members fails => ?_
  exact (failsWith_entryD_bind mapping fun id => iff_false_intro (not_failsWith_pure _)).1 fails

end Declarations

/-! ## Repositories -/

namespace Repository

variable {d : Document}

/-- The items of a section, none where they cannot be read. -/
def itemsAt (d : Document) (key : String) : List Document :=
  (do (← d.entryD key (.seq [])).items).toOption.getD []

/-- A section is read up to an item of some kind. -/
def FailsAt {α : Type} (d : Document) (key : String) (read : Document → Decoded α)
    (bad : Document → Prop) : Prop :=
  FirstFails read bad (itemsAt d key)

section Sections

variable {α β : Type} {key : String} {read : Document → Decoded α} {bad : Document → Prop}

/-- A section is read up to an item that is not. -/
theorem failsWith_declarations (mapping : d.isMapping)
    (item : ∀ x, FailsWith DecodeFault.Escapes (read x) ↔ bad x) :
    FailsWith DecodeFault.Escapes (declarations d key read) ↔ FailsAt d key read bad := by
  rw [declarations, FailsAt, itemsAt, entryD, entry?_eq mapping]
  show FailsWith _ (liftM (Document.items _) >>= _) ↔
    FirstFails read bad ((Document.items _).toOption.getD [])
  cases found : ((d.entry key).toOption.getD (.seq [])).items with
  | ok items =>
    rw [liftM_ok_bind, failsWith_mapM, FirstFails.congr item, Except.toOption, Option.getD_some]
  | error fault =>
    refine iff_of_false ?_ not_firstFails_nil
    rw [failsWith_bind, failsWith_liftM, ← found]
    rintro (told | ⟨items, read, -⟩)
    · exact not_failsWith_items told
    · rw [liftM_eq_ok_iff, found] at read
      cases read

theorem failsWith_declarations_bind {f : List α → Decoded β} {P : Prop} (mapping : d.isMapping)
    (item : ∀ x, FailsWith DecodeFault.Escapes (read x) ↔ bad x)
    (h : ∀ xs, FailsWith DecodeFault.Escapes (f xs) ↔ P) :
    FailsWith DecodeFault.Escapes (declarations d key read >>= f) ↔
      FailsAt d key read bad ∨ Reads (declarations d key read) ∧ P := by
  rw [← failsWith_declarations mapping item]
  exact failsWith_seq fun xs _ => h xs

end Sections

/-- A document is read, one section after the other, up to an infinite number where an integer
belongs or up to a code set that is no mapping. -/
def Overlooks (d : Document) : Prop :=
  Written (d.entryD "version" (.text "")) ∧
    (FailsAt d "fields" Field.ofDocument (InfiniteAt · "id") ∨
    Reads (declarations d "fields" Field.ofDocument) ∧
    (FailsAt d "code_sets" CodeSet.ofDocument (·.isMapping = false) ∨
    Reads (declarations d "code_sets" CodeSet.ofDocument) ∧
    (FailsAt d "components" Component.ofDocument Component.Overlooks ∨
    Reads (declarations d "components" Component.ofDocument) ∧
    (FailsAt d "groups" Group.ofDocument Group.Overlooks ∨
    Reads (declarations d "groups" Group.ofDocument) ∧
    FailsAt d "messages" Message.ofDocument Message.Overlooks))))

theorem failsWith_partsOfDocument (mapping : d.isMapping) :
    FailsWith DecodeFault.Escapes (partsOfDocument d) ↔ Overlooks d := by
  refine failsWith_entryD_bind mapping fun name => ?_
  have version : ¬FailsWith DocumentFault.Escapes (d.entryD "version" (.text "")) := by
    rw [failsWith_entryD, mapping]
    exact Bool.true_eq_false.mp
  refine failsWith_written_bind version fun version => ?_
  refine failsWith_declarations_bind mapping (fun _ => Field.failsWith_ofDocument) fun fields => ?_
  refine failsWith_declarations_bind mapping (fun _ => CodeSet.failsWith_ofDocument)
    fun codeSets => ?_
  refine failsWith_declarations_bind mapping (fun _ => Component.failsWith_ofDocument)
    fun components => ?_
  refine failsWith_declarations_bind mapping (fun _ => Group.failsWith_ofDocument)
    fun groups => ?_
  -- nothing follows the messages
  refine (failsWith_declarations_bind (P := False) mapping
    (fun _ => Message.failsWith_ofDocument) fun messages => ?_).trans (by simp)
  exact iff_false_intro (not_failsWith_pure _)

/-- What is overlooked in is a mapping: nothing else has a version. -/
theorem Overlooks.isMapping (h : Overlooks d) : d.isMapping := by
  obtain ⟨⟨v, found, -⟩, -⟩ := h
  cases mapping : d.isMapping with
  | true => rfl
  | false =>
    have fails : FailsWith DocumentFault.Escapes (d.entryD "version" (.text "")) :=
      failsWith_entryD.2 mapping
    obtain ⟨fault, told, -⟩ := fails
    rw [told] at found
    cases found

/-- A document is read, or the user is told why it is not. -/
def ReadOrReported (d : Document) : Prop :=
  Reads (ofDocument d) ∨
    ∃ fault, ofDocument d = .error fault ∧ CommandLine.isToldSource (.document fault) = true

/-- What the whole makes of a fault in some part. -/
theorem wholeFault_cases (f : DecodeFault) :
    (∃ fault, wholeFault f = .format fault) ∨ wholeFault f = .document .infinity ∨
      ∃ kind, wholeFault f = .document (.notMapping kind) := by
  cases f with
  | format fault => exact Or.inl ⟨fault, rfl⟩
  | document fault => cases fault <;> simp [wholeFault, DocumentFault.kind]

theorem ofDocument_of_isMapping (mapping : d.isMapping) :
    ofDocument d = (partsOfDocument d).mapError wholeFault := by
  cases d with
  | map entries => rfl
  | _ => exact absurd mapping Bool.false_ne_true

theorem ofDocument_of_not_isMapping (mapping : d.isMapping = false) :
    ofDocument d = .error (.format .notMapping) := by
  cases d with
  | map entries => exact absurd mapping.symm Bool.false_ne_true
  | _ => rfl

theorem readOrReported_iff : ReadOrReported d ↔ ¬Overlooks d := by
  cases mapping : d.isMapping with
  | false =>
    refine iff_of_true (Or.inr ⟨_, ofDocument_of_not_isMapping mapping, rfl⟩) fun overlooks => ?_
    exact Bool.false_ne_true (mapping.symm.trans overlooks.isMapping)
  | true =>
    refine reads_or_told_iff.trans (not_congr ?_)
    rw [ofDocument_of_isMapping mapping, failsWith_mapError]
    exact failsWith_partsOfDocument mapping

/-- How reading a document can end. -/
theorem ofDocument_cases (d : Document) :
    Reads (ofDocument d) ∨ (∃ fault, ofDocument d = .error (.format fault)) ∨
      ofDocument d = .error (.document .infinity) ∨
      ∃ kind, ofDocument d = .error (.document (.notMapping kind)) := by
  cases mapping : d.isMapping with
  | false => exact Or.inr (Or.inl ⟨_, ofDocument_of_not_isMapping mapping⟩)
  | true =>
    rw [ofDocument_of_isMapping mapping]
    cases partsOfDocument d with
    | ok r => exact Or.inl ⟨r, rfl⟩
    | error fault =>
      rcases wholeFault_cases fault with ⟨whole, h⟩ | h | ⟨kind, h⟩
      · exact Or.inr (Or.inl ⟨whole, congrArg Except.error h⟩)
      · exact Or.inr (Or.inr (Or.inl (congrArg Except.error h)))
      · exact Or.inr (Or.inr (Or.inr ⟨kind, congrArg Except.error h⟩))

/-- **Reading a document gives a repository, a fault of the format, a fault of an infinite number or
one of a part that is no mapping.**  The last two are not told to the user, and they are those of
the documents that are read up to an infinite number where an integer belongs or up to a code set
that is no mapping. -/
theorem malformed_documents_reported_iff (d : Document) :
    (Reads (ofDocument d) ∨ (∃ fault, ofDocument d = .error (.format fault)) ∨
      ofDocument d = .error (.document .infinity) ∨
      ∃ kind, ofDocument d = .error (.document (.notMapping kind))) ∧
    (ReadOrReported d ↔ ¬Overlooks d) :=
  ⟨ofDocument_cases d, readOrReported_iff⟩

/-- A document with a number in place of a code set. -/
def numberForCodeSet : Document := .map [(.text "code_sets", .seq [.int 1])]

/-- A number in place of a code set is not told to the user. -/
theorem not_malformed_documents_reported : ¬∀ d, ReadOrReported d := by
  intro all
  have refused : ofDocument numberForCodeSet = .error (.document (.notMapping "int")) := rfl
  rcases all numberForCodeSet with ⟨r, read⟩ | ⟨fault, told, isTold⟩
  · rw [refused] at read
    cases read
  · rw [refused] at told
    cases told
    cases isTold

end Repository

end FixBindings
