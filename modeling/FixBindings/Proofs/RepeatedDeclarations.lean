import FixBindings.Proofs.Consistency
import FixBindings.Proofs.UsageDiagnostics

/-!
# Declarations that repeat an id

The classes of a repository are made from its first declarations, and references are looked up in
its index.  The two are made by different passes, and `classes_agree_with_index` says that they
never differ: the tables of the index hold the first declarations in the same order, so the class
of an id is made from the very declaration that a reference to the id leads to.

What is left out is reported.  `Index.mem_remarks_foldlM_iff` says what a pass over declarations has
to remark on, a key that occurs twice, and `Diagnostic.eq_duplicate` that the text for a repeated id
is the text of no other repetition.  As a ledger holds a text once, there is one for every id that
is declared more than once, and for no other id.
-/

set_option autoImplicit false

namespace FixBindings

/-! ## Texts -/

namespace Diagnostic

/-- The text of a diagnostic on a repeated id up to the id. -/
def duplicateFront (kind : ElementKind) : String := "build_index: duplicate " ++ kind.name ++ " id="

theorem message_duplicate (kind : ElementKind) (id : Int) :
    (duplicate kind id).message = duplicateFront kind ++ toString id := rfl

theorem initial_duplicateFront (kind : ElementKind) :
    (duplicateFront kind).toList[23]? = some (initial kind) := by
  cases kind <;> decide +kernel

/-- The text on a repeated id is that of no other repetition.  The texts on messages go another way
where it says that something is a duplicate, or where it says of which kind. -/
theorem eq_duplicate {d : Diagnostic} {kind : ElementKind} {id : Int} (h : d.isRepetition)
    (same : d.message = (duplicate kind id).message) : d = .duplicate kind id := by
  have ours {n : Nat} {c : Char} (front : (duplicateFront kind).toList[n]? = some c) :
      d.message.toList[n]? = some c := by
    rw [same, message_duplicate, getElem?_append front]
  cases d with
  | duplicate other n =>
    rw [message_duplicate, message_duplicate] at same
    obtain ⟨rfl, rfl⟩ := append_id_inj initial_duplicateFront same
    rfl
  | extraBase name =>
    have theirs : (extraBase name).message.toList[13]? = some 'm' :=
      getElem?_append (by decide +kernel) name
    rw [ours (c := 'd') (by cases kind <;> decide +kernel)] at theirs
    exact absurd (Option.some.inj theirs) (by decide)
  | duplicateScenario scenario name =>
    have theirs : (duplicateScenario scenario name).message.toList[23]? = some 's' :=
      getElem?_append (getElem?_append (getElem?_append (by decide +kernel) _) _) _
    rw [ours (initial_duplicateFront kind)] at theirs
    have other : initial kind ≠ 's' := by cases kind <;> decide
    exact absurd (Option.some.inj theirs) other
  | _ => exact absurd h Bool.false_ne_true

end Diagnostic

/-! ## Passes over declarations -/

namespace Index

variable {κ : Type} [DecidableEq κ] {keys : Index → List κ} {i : Index}

/-- **A pass over declarations remarks on the keys that occur twice**, those included that were
entered before the pass. -/
theorem mem_remarks_foldlM_iff {α : Type} {add : Index → α → Traced Index} {key : α → κ}
    {d : κ → Diagnostic} {xs : List α} {x : Remark}
    (step : ∀ i, ∀ a ∈ xs, Reports keys (key a) (d (key a)) i (add i a))
    (start : (keys i).Nodup) :
    x ∈ (xs.foldlM add i).remarks ↔
      ∃ k, x = .diagnostic (d k) ∧ 2 ≤ (keys i ++ xs.map key).count k := by
  induction xs generalizing i with
  | nil =>
    refine iff_of_false List.not_mem_nil fun ⟨k, _, twice⟩ => ?_
    have once := List.nodup_iff_count_le_one.1 start k
    rw [List.map_nil, List.append_nil] at twice
    omega
  | cons a rest ih =>
    have first := step i a List.mem_cons_self
    have later : ∀ i, ∀ b ∈ rest, Reports keys (key b) (d (key b)) i (add i b) :=
      fun i b hb => step i b (List.mem_cons_of_mem a hb)
    rw [List.foldlM_cons, Traced.remarks_bind, List.mem_append, List.map_cons]
    by_cases known : key a ∈ keys i
    · obtain ⟨remarks, entered⟩ := first.known known
      rw [remarks, ih later (entered ▸ start), entered, List.mem_singleton]
      have counted (k : κ) : (keys i ++ key a :: rest.map key).count k =
          (keys i ++ rest.map key).count k + if key a = k then 1 else 0 := by
        simp [List.count_append, List.count_cons]
        omega
      constructor
      · rintro (rfl | ⟨k, rfl, twice⟩)
        · have before := List.count_pos_iff.2 (List.mem_append_left (rest.map key) known)
          refine ⟨key a, rfl, ?_⟩
          rw [counted, if_pos rfl]
          omega
        · refine ⟨k, rfl, ?_⟩
          rw [counted]
          omega
      · rintro ⟨k, rfl, twice⟩
        rw [counted] at twice
        by_cases same : key a = k
        · exact Or.inl (by rw [same])
        · rw [if_neg same] at twice
          exact Or.inr ⟨k, rfl, twice⟩
    · obtain ⟨silent, entered⟩ := first.fresh known
      have nodup : (keys (add i a).value).Nodup := by
        rw [entered, ← List.concat_eq_append]
        exact start.concat known
      rw [silent, ih later nodup, entered, List.append_assoc, List.singleton_append]
      exact or_iff_right List.not_mem_nil

/-- A pass over the declarations of a kind remarks on the ids of that kind that are declared more
than once. -/
theorem duplicate_mem_pass {α : Type} {ids : Index → List Int} {add : Index → α → Traced Index}
    {idOf : α → Int} {kind own : ElementKind} {xs : List α} {id : Int}
    (step : ∀ i, ∀ a ∈ xs, Reports ids (idOf a) (.duplicate own (idOf a)) i (add i a))
    (empty : ids i = []) : .diagnostic (.duplicate kind id) ∈ (xs.foldlM add i).remarks ↔
      kind = own ∧ 2 ≤ (xs.map idOf).count id := by
  rw [mem_remarks_foldlM_iff (d := .duplicate own) step (empty ▸ List.nodup_nil), empty,
    List.nil_append]
  constructor
  · rintro ⟨n, same, twice⟩
    cases same
    exact ⟨rfl, twice⟩
  · rintro ⟨rfl, twice⟩
    exact ⟨id, rfl, twice⟩

end Index

/-! ## What the index reports -/

namespace Repository

variable {r : Repository} {options : Options} {layer : SessionLayer}

/-- The ids that are declared of a kind, in order. -/
def idsOf (r : Repository) : ElementKind → List Int
  | .field => r.fields.map Field.id
  | .group => r.groups.map Group.id
  | .component => r.components.map Component.id

/-- The index of a repository is made with a remark on an id exactly if the id is declared more
than once. -/
theorem WellTyped.duplicate_mem_remarks_iff (typed : r.WellTyped) {kind : ElementKind} {id : Int} :
    .diagnostic (.duplicate kind id) ∈ (Index.ofRepository r).remarks ↔
      2 ≤ (r.idsOf kind).count id := by
  obtain ⟨i, j, k, passes, noComponents, noGroups, -⟩ := typed.exists_passes
  have fields := @Index.duplicate_mem_pass {} _ _ _ Field.id kind .field _ id
    (fun i f hf => Index.addField_reports (typed.fields f hf).1 i) rfl
  have components := @Index.duplicate_mem_pass i _ _ _ Component.id kind .component _ id
    (fun i c hc => Index.addComponent_reports (typed.components c hc) i)
    (by rw [noComponents, List.map_nil])
  have groups := @Index.duplicate_mem_pass j _ _ _ Group.id kind .group _ id
    (fun i g hg => Index.addGroup_reports (typed.groups g hg) i) (by rw [noGroups, List.map_nil])
  have messages : .diagnostic (.duplicate kind id) ∉
      (r.messages.foldlM Index.addMessage k).remarks := by
    intro h
    obtain ⟨_, m, h⟩ := Traced.exists_of_mem_remarks_foldlM h
    have scenario := Index.eq_repeatedScenario h
    rw [Index.repeatedScenario] at scenario
    split at scenario <;> cases scenario
  rw [passes, List.mem_append, List.mem_append, List.mem_append, fields, components, groups,
    or_iff_left messages]
  cases kind <;> simp [idsOf]

/-- **The ledger of a new index has one text for an id that is declared more than once**, and none
for any other. -/
theorem WellTyped.count_duplicate (typed : r.WellTyped) (kind : ElementKind) (id : Int) :
    ((Index.ofRepository r).run []).2.count (Diagnostic.duplicate kind id).message =
      if 2 ≤ (r.idsOf kind).count id then 1 else 0 := by
  have nodup : ((Index.ofRepository r).run []).2.Nodup := Traced.nodup_run List.nodup_nil _
  have noted : (Diagnostic.duplicate kind id).message ∈ ((Index.ofRepository r).run []).2 ↔
      2 ≤ (r.idsOf kind).count id := by
    rw [Traced.mem_ledger_run, or_iff_right List.not_mem_nil, typed.index_clean.mem_reported,
      ← typed.duplicate_mem_remarks_iff]
    constructor
    · rintro ⟨d, hd, same⟩
      rwa [Diagnostic.eq_duplicate (Index.isRepetition_of_mem hd) same] at hd
    · exact fun h => ⟨_, h, rfl⟩
  rw [nodup.count]
  exact if_congr noted rfl rfl

end Repository

/-! ## What classes are made from -/

/-- A class is made from the declaration that references to an id lead to. -/
inductive Context.Resolves (e : Context) : ElementKind → Int → Artifact → Prop
  | field {id : Int} {f : Field} (found : e.index.field? id = some f) :
      Resolves e .field id (e.describeField f).value
  | group {id : Int} {g : Group} {counter : Field} (package : String)
      (found : e.index.group? id = some g) (counted : e.index.field? g.counter = some counter) :
      Resolves e .group id (e.groupClass package g counter)
  | component {id : Int} {c : Component} (package : String)
      (found : e.index.component? id = some c) :
      Resolves e .component id (e.describeComponent package c).value

namespace Repository

variable {r : Repository} {options : Options} {layer : SessionLayer}

theorem Emits.resolves {a : Artifact} (h : r.Emits options layer a) {kind : ElementKind} {id : Int}
    (declares : a.declaration? = some (kind, id)) :
    (r.context options layer).Resolves kind id a := by
  cases h with
  | @field f hf =>
    obtain ⟨rfl, rfl⟩ : .field = kind ∧ f.id = id := Prod.mk.inj (Option.some.inj declares)
    have first := describedFields_subset _ _ _ hf
    exact .field ((index_field? r f.id).trans (field?_eq_some_iff.2 ⟨first, rfl⟩))
  | @group g counter hg hc _ =>
    obtain ⟨rfl, rfl⟩ : .group = kind ∧ g.id = id := Prod.mk.inj (Option.some.inj declares)
    exact .group _ ((index_group? r g.id).trans (group?_eq_some_iff.2 ⟨hg, rfl⟩))
      ((index_field? r g.counter).trans hc)
  | @component c hc =>
    obtain ⟨rfl, rfl⟩ : .component = kind ∧ c.id = id := Prod.mk.inj (Option.some.inj declares)
    have first := describedComponents_subset _ _ _ hc
    exact .component _ ((index_component? r c.id).trans (component?_eq_some_iff.2 ⟨first, rfl⟩))
  | _ => exact absurd declares nofun

/-- An index holds the declarations that classes are made from, in the same order, and its ledger
tells which ids have others. -/
structure KeepsFirst (r : Repository) (index : Index) (ledger : Ledger) : Prop where
  fields : index.fields = r.distinct.fields
  components : index.components = r.distinct.components
  groups : index.groups = r.distinct.groups
  messages : index.canonicalMessages = Context.canonicalMessages r.distinct.messages
  /-- There is one text for an id that is declared more than once, and none for any other. -/
  reported : ∀ kind id, ledger.count (Diagnostic.duplicate kind id).message =
    if 2 ≤ (r.idsOf kind).count id then 1 else 0

theorem WellTyped.keepsFirst (typed : r.WellTyped) :
    r.KeepsFirst r.index ((Index.ofRepository r).run []).2 where
  fields := r.index_fields
  components := r.index_components
  groups := r.index_groups
  messages := by
    rw [Index.canonicalMessages, typed.index_messages,
      typed.canonicalMessages_eq_filter (List.Sublist.refl _)]
  reported := typed.count_duplicate

/-- **Classes and references agree on repeated declarations.**  A well-typed repository has an
index without a fault, which keeps the first fields, components and groups of each id and the
canonical messages among the first definitions, and reports each repeated id once.  Every
description of the repository has this index, and makes the class of a field, a component or a
group from the declaration that references to its id lead to. -/
theorem classes_agree_with_index (typed : r.WellTyped) :
    ∃ index ledger, (Index.ofRepository r).run [] = (.ok index, ledger) ∧
      r.KeepsFirst index ledger ∧
      ∀ options layer before, ∃ d, ((describe options layer r).run before).1 = .ok d ∧
        d.index = index ∧ ∀ a ∈ d.artifacts, ∀ kind id, a.declaration? = some (kind, id) →
          (r.context options layer).Resolves kind id a := by
  refine ⟨r.index, _, Prod.ext (typed.index_clean.run []) rfl, typed.keepsFirst,
    fun options layer before => ⟨_, (typed.describe_clean options layer).run before, ?_, ?_⟩⟩
  · exact r.describe_index options layer
  · intro a ha kind id declares
    exact (mem_artifacts_iff.1 ha).resolves declares

/-- A field and a canonical message that are declared twice. -/
def twice : Repository where
  version := "FIX.4.4"
  fields := [{ id := 58, name := "Text", type := "String" },
    { id := 58, name := "Note", type := "String" }]
  messages := [{ name := "Order", msgType := "D", members := [.field 58] },
    { name := "Order", msgType := "E" }]

theorem twice_wellTyped : twice.WellTyped where
  fields f hf := by
    simp only [twice, List.mem_cons, List.not_mem_nil, or_false] at hf
    rcases hf with rfl | rfl <;> exact ⟨rfl, rfl, Or.inl rfl⟩
  codeSets := nofun
  components := nofun
  groups := nofun
  messages := by decide

theorem classes_agree_with_index_twice :
    twice.WellTyped ∧ ∃ index ledger, (Index.ofRepository twice).run [] = (.ok index, ledger) ∧
      twice.KeepsFirst index ledger ∧
      ∀ options layer before, ∃ d, ((describe options layer twice).run before).1 = .ok d ∧
        d.index = index ∧ ∀ a ∈ d.artifacts, ∀ kind id, a.declaration? = some (kind, id) →
          (twice.context options layer).Resolves kind id a :=
  ⟨twice_wellTyped, classes_agree_with_index twice_wellTyped⟩

/-- The repeated id is reported, and so is the message. -/
example : ((Index.ofRepository twice).run []).2 = ["build_index: duplicate Field id=58",
    "build_index: more than one base scenario for Message name=Order"] := by
  decide +kernel

end Repository
end FixBindings
