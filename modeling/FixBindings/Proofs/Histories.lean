import FixBindings.Proofs.Requests

/-!
# One index, many requests

An index is made once and asked many times, and the diagnostics of all requests go into one ledger.
A `Workbench` is an index with its ledger, and `ask` and `askAll` make requests of it.  The ledger
is all that changes, and no answer depends on it, so what was asked before makes no difference:
`Workbench.IndependentOfHistory` says so for every sequence of requests, and `history_independent`
says that it holds for the index of every well-typed repository.

A description is such a history: `describe_eq_history` says that the diagnostics that describing a
repository leaves are those that its requests leave, made one after another.
-/

set_option autoImplicit false

namespace FixBindings

/-- An index, what classes are made from besides it, and the diagnostics so far. -/
structure Workbench where
  context : Context
  ledger : Ledger

namespace Workbench

/-- A request is made: its outcome, and the workbench afterwards. -/
def ask (w : Workbench) (q : Request) : Except DocumentFault Answer × Workbench :=
  let (outcome, ledger) := (w.context.answer q).run w.ledger
  (outcome, { w with ledger })

/-- Requests are made one after another, whatever becomes of each. -/
def askAll (w : Workbench) : List Request → List (Except DocumentFault Answer) × Workbench
  | [] => ([], w)
  | q :: rest =>
    let (outcome, w) := w.ask q
    let (outcomes, w) := w.askAll rest
    (outcome :: outcomes, w)

/-- The workbench of a repository, before any request. -/
def ofRepository (options : Options) (layer : SessionLayer) (r : Repository) :
    Except DocumentFault Workbench :=
  match (Index.ofRepository r).run [] with
  | (.ok index, ledger) =>
    .ok { context := { index, layout := .ofVersion options r.version, layer }, ledger }
  | (.error f, _) => .error f

/-! ## One request -/

variable {w v : Workbench} {q : Request} {requests : List Request} {text : String}

@[simp] theorem context_ask (w : Workbench) (q : Request) : (w.ask q).2.context = w.context := rfl

theorem ledger_ask (w : Workbench) (q : Request) :
    (w.ask q).2.ledger = w.ledger.addAll (w.context.answer q).reported :=
  Traced.ledger_run _ _

/-- **The outcome of a request does not depend on the ledger.** -/
theorem outcome_ask (same : w.context = v.context) (q : Request) : (w.ask q).1 = (v.ask q).1 := by
  rw [ask, ask, same]
  exact Traced.outcome_run _ _ _

/-! ## Many requests -/

/-- **Requests leave all but the ledger alone.** -/
theorem context_askAll (w : Workbench) (requests : List Request) :
    (w.askAll requests).2.context = w.context := by
  induction requests generalizing w with
  | nil => rfl
  | cons q rest ih => exact ih (w.ask q).2

/-- **Each request has the outcome that it has on its own.** -/
theorem outcomes_askAll (same : w.context = v.context) (requests : List Request) :
    (w.askAll requests).1 = requests.map fun q => (v.ask q).1 := by
  induction requests generalizing w with
  | nil => rfl
  | cons q rest ih => exact congrArg₂ List.cons (outcome_ask same q) (ih same)

/-- **Requests add what each reports.** -/
theorem ledger_askAll (w : Workbench) (requests : List Request) : (w.askAll requests).2.ledger =
    w.ledger.addAll (requests.flatMap fun q => (w.context.answer q).reported) := by
  induction requests generalizing w with
  | nil => rfl
  | cons q rest ih =>
    refine (ih (w.ask q).2).trans ?_
    rw [context_ask, ledger_ask, List.flatMap_cons, Ledger.addAll_append]

theorem mem_ledger_askAll : text ∈ (w.askAll requests).2.ledger ↔
    text ∈ w.ledger ∨ ∃ q ∈ requests, text ∈ (w.ask q).2.ledger := by
  simp only [ledger_askAll, ledger_ask, Ledger.mem_addAll, List.mem_flatMap]
  constructor
  · rintro (h | ⟨q, hq, h⟩)
    · exact Or.inl h
    · exact Or.inr ⟨q, hq, Or.inr h⟩
  · rintro (h | ⟨q, hq, h | h⟩)
    · exact Or.inl h
    · exact Or.inl h
    · exact Or.inr ⟨q, hq, h⟩

/-! ## Histories -/

/-- What was asked of a workbench before makes no difference to a request, and the diagnostics are
those of the index and of each request on its own. -/
structure IndependentOfHistory (fresh : Workbench) : Prop where
  /-- The tables are never changed. -/
  tables : ∀ requests, (fresh.askAll requests).2.context.index = fresh.context.index
  outcomes : ∀ requests, (fresh.askAll requests).1 = requests.map fun q => (fresh.ask q).1
  /-- The ledger grows at its end. -/
  grows : ∀ requests later,
    (fresh.askAll requests).2.ledger <+: (fresh.askAll (requests ++ later)).2.ledger
  /-- No text is entered twice. -/
  once : ∀ requests, (fresh.askAll requests).2.ledger.Nodup
  union : ∀ requests text, text ∈ (fresh.askAll requests).2.ledger ↔
    text ∈ fresh.ledger ∨ ∃ q ∈ requests, text ∈ (fresh.ask q).2.ledger
  /-- The order of the requests makes no difference to which texts there are. -/
  unordered : ∀ requests reordered, requests.Perm reordered → ∀ text,
    text ∈ (fresh.askAll requests).2.ledger ↔ text ∈ (fresh.askAll reordered).2.ledger

theorem independentOfHistory {fresh : Workbench} (once : fresh.ledger.Nodup) :
    fresh.IndependentOfHistory where
  tables requests := congrArg Context.index (fresh.context_askAll requests)
  outcomes requests := outcomes_askAll rfl requests
  grows requests later := by
    rw [ledger_askAll, ledger_askAll, List.flatMap_append, Ledger.addAll_append]
    exact Ledger.prefix_addAll _ _
  once requests := by
    rw [ledger_askAll]
    exact Ledger.nodup_addAll once _
  union _ _ := mem_ledger_askAll
  unordered requests reordered same text := by
    rw [mem_ledger_askAll, mem_ledger_askAll]
    simp only [same.mem_iff]

end Workbench

/-! ## The workbench of a repository -/

/-- The names, types and scenarios that a request brings along are texts. -/
def Request.WellTyped : Request → Prop
  | .field _ _ | .group _ _ | .component _ _ | .usedFieldIds _ _ _ | .messageBase _ => True
  | .codeSet f => f.type.isText ∧ (f.codeSet = .null ∨ f.codeSet.isText)
  | .fieldClass f => f.name.isText ∧ f.type.isText ∧ (f.codeSet = .null ∨ f.codeSet.isText)
  | .groupClass _ g => g.name.isText
  | .componentClass _ c => c.name.isText
  | .messageClass _ _ m => m.name.isText ∧ m.scenario.isText
  | .factory messages | .cracker messages => ∀ m ∈ messages, m.name.isText ∧ m.scenario.isText

namespace Repository

variable {r : Repository} {options : Options} {layer : SessionLayer}

/-- **A well-typed request to a well-typed repository is answered.** -/
theorem WellTyped.answer_clean (typed : r.WellTyped) {q : Request} (asked : q.WellTyped) :
    ((r.context options layer).answer q).Clean := by
  have named := typed.context_named options layer
  cases q with
  | field operation id => simp [Context.answer]
  | group operation id => simp [Context.answer]
  | component operation id => simp [Context.answer, Index.componentFor, Index.found]
  | codeSet f => simp [Context.answer, Index.codeSetOf_clean asked.1 asked.2]
  | usedFieldIds layer framed messages => simp [Context.answer, Index.usedFieldIds_clean]
  | fieldClass f => simp [Context.answer, typed.describeField_clean asked]
  | groupClass package g => simp [Context.answer, typed.describeGroup_clean asked]
  | componentClass package c => simp [Context.answer, typed.describeComponent_clean asked]
  | messageClass package componentsPackage m =>
    have name := (Context.messageClassName_silent asked.1 asked.2).clean
    simp [Context.answer, typed.describeMessage_clean name]
  | messageBase version => simp [Context.answer]
  | factory messages =>
    have names : ∀ m ∈ messages, m.className.Clean := fun m hm =>
      (Context.messageClassName_silent (asked m hm).1 (asked m hm).2).clean
    simp [Context.answer, Context.describeFactory_clean named names]
  | cracker messages =>
    have names : ∀ m ∈ messages, m.className.Clean := fun m hm =>
      (Context.messageClassName_silent (asked m hm).1 (asked m hm).2).clean
    simp [Context.answer, Context.describeCracker_clean names]

/-- The workbench of a repository, as `Workbench.ofRepository` makes it if it can. -/
def workbench (r : Repository) (options : Options) (layer : SessionLayer) : Workbench where
  context := r.context options layer
  ledger := ((Index.ofRepository r).run []).2

theorem WellTyped.ofRepository_eq (typed : r.WellTyped) (options : Options)
    (layer : SessionLayer) :
    Workbench.ofRepository options layer r = .ok (r.workbench options layer) := by
  have made : (Index.ofRepository r).run [] = (.ok r.index, ((Index.ofRepository r).run []).2) :=
    Prod.ext (typed.index_clean.run []) rfl
  rw [Workbench.ofRepository, made]
  rfl

/-- **No history makes a difference.**  The index of a well-typed repository is made without a
fault.  Whatever is asked of it and of what is made from it, in whatever order and however often,
leaves its tables alone and has the outcome that it has on a fresh index, which is an answer if the
request is well-typed.  The diagnostics only ever grow at their end and never repeat a text, and
which there are depends on what was asked alone, not on the order. -/
theorem history_independent (typed : r.WellTyped) (options : Options) (layer : SessionLayer) :
    ∃ fresh, Workbench.ofRepository options layer r = .ok fresh ∧
      fresh.ledger = ((Index.ofRepository r).run []).2 ∧ fresh.IndependentOfHistory ∧
      ∀ q : Request, q.WellTyped → ∃ answer, (fresh.ask q).1 = .ok answer := by
  refine ⟨_, typed.ofRepository_eq options layer, rfl, ?_, fun q asked => ?_⟩
  · exact Workbench.independentOfHistory (Traced.nodup_run List.nodup_nil _)
  · exact ⟨_, (typed.answer_clean asked).run _⟩

theorem history_independent_sample :
    (Sample.repository "FIX.4.4").WellTyped ∧
    ∃ fresh, Workbench.ofRepository ⟨{}, rfl⟩ {} (Sample.repository "FIX.4.4") = .ok fresh ∧
      fresh.ledger = ((Index.ofRepository (Sample.repository "FIX.4.4")).run []).2 ∧
      fresh.IndependentOfHistory ∧
      ∀ q : Request, q.WellTyped → ∃ answer, (fresh.ask q).1 = .ok answer :=
  ⟨Sample.wellTyped _, history_independent (Sample.wellTyped _) _ {}⟩

/-! ## Descriptions -/

/-- What a description asks for is well-typed. -/
theorem WellTyped.requests (typed : r.WellTyped) :
    ∀ q ∈ r.requests options layer, q.WellTyped := by
  have messages {ms : List Message} (h : ms ⊆ r.messages) :
      ∀ m ∈ ms, m.name.isText ∧ m.scenario.isText := fun m hm =>
    ⟨(typed.messages m (h hm)).1, (typed.messages m (h hm)).2.2⟩
  have filtered (p : Message → Bool) : r.distinct.messages.filter p ⊆ r.messages :=
    fun _ hm => distinct_messages_subset (List.mem_filter.1 hm).1
  intro q hq
  simp only [Repository.requests, List.mem_append, List.mem_flatMap] at hq
  rcases hq with ((((hq | hq) | ⟨_, -, hq⟩) | hq) | ⟨_, -, hq⟩) | hq
  · rw [usageRequests] at hq
    rcases List.mem_pair.1 hq with rfl | rfl <;> exact trivial
  · obtain ⟨f, hf, rfl⟩ := List.mem_map.1 hq
    exact typed.fields f (distinct_fields_subset (describedFields_subset _ _ _ hf))
  · obtain ⟨g, hg, rfl⟩ := List.mem_map.1 hq
    exact typed.groups g (distinct_groups_subset (List.mem_filter.1 hg).1)
  · obtain ⟨c, hc, rfl⟩ := List.mem_map.1 hq
    exact typed.components c (distinct_components_subset (describedComponents_subset _ _ _ hc))
  · obtain ⟨m, hm, rfl⟩ := List.mem_map.1 hq
    exact messages (filtered _) m hm
  · rw [singleRequests, List.mem_append] at hq
    rcases hq with hq | hq
    · split at hq
      · obtain rfl := List.mem_singleton.1 hq
        exact trivial
      · exact absurd hq List.not_mem_nil
    · rcases List.mem_pair.1 hq with rfl | rfl
      · exact messages (filtered _)
      · exact messages (filtered _)

/-- **A description is a history**: its diagnostics are those that its requests leave, made one
after another, and its classes are the classes among their outcomes. -/
theorem describe_eq_history (typed : r.WellTyped) (options : Options) (layer : SessionLayer) :
    ∃ fresh d, Workbench.ofRepository options layer r = .ok fresh ∧
      ((describe options layer r).run []).1 = .ok d ∧
      ((describe options layer r).run []).2 =
        (fresh.askAll (r.requests options layer)).2.ledger ∧
      (fresh.askAll (r.requests options layer)).1 =
        (r.requests options layer).map (fun q => .ok ((r.context options layer).answer q).value) ∧
      d.artifacts = r.classesOf options layer (r.requests options layer) := by
  have answered : ∀ q ∈ r.requests options layer, ((r.context options layer).answer q).Clean :=
    fun q hq => typed.answer_clean (typed.requests q hq)
  refine ⟨_, _, typed.ofRepository_eq options layer, (typed.describe_clean options layer).run [],
    ?_, ?_, r.artifacts_eq_classesOf options layer⟩
  · rw [Workbench.ledger_askAll, workbench, Traced.ledger_run, Traced.ledger_run,
      ← Ledger.addAll_append, Traced.reported, remarks_describe, remarksOf,
      typed.index_clean.reportedBy_append, Traced.reportedBy_flatMap answered]
  · rw [Workbench.outcomes_askAll rfl]
    exact List.map_congr_left fun q hq => (answered q hq).run _

end Repository
end FixBindings
