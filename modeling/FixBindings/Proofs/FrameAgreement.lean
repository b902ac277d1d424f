import FixBindings.Proofs.Artifacts
import Mathlib.Data.List.Basic

/-!
# Repositories that agree off the standard header and trailer

`Repository.AgreesOffFrame` says that two repositories differ in the members of the standard header
and trailer at most.  This file compares what is made from them without a message base class, walk
by walk and then pass by pass.

The walks over used fields, over accessors and over cases see no difference: they prune the header
and trailer, or enter no component at all.  The walk over the order of a repetition does not prune,
so `AgreesOffFrame.repetitionOrder` has to ask that the members do not lead it there.  The other
results take the equality of these orders as a hypothesis, down to `AgreesOffFrame.artifacts`: what
is left of the difference is in the orders of repetitions.
-/

set_option autoImplicit false

namespace FixBindings

/-! ## Repositories that agree off the frame -/

/-- A component without its members if it is the standard header or trailer. -/
def SessionLayer.blank (layer : SessionLayer) (c : Component) : Component :=
  if layer.isFrame c.id then { c with members := [] } else c

@[simp] theorem SessionLayer.blank_id (layer : SessionLayer) (c : Component) :
    (layer.blank c).id = c.id := by
  rw [blank]
  split <;> rfl

namespace Repository

/-- Two repositories are the same, but for the members of the standard header and trailer. -/
structure AgreesOffFrame (layer : SessionLayer) (r s : Repository) : Prop where
  name : r.name = s.name
  version : r.version = s.version
  fields : r.fields = s.fields
  codeSets : r.codeSets = s.codeSets
  components : r.components.map layer.blank = s.components.map layer.blank
  groups : r.groups = s.groups
  messages : r.messages = s.messages

variable {layer : SessionLayer} {r s : Repository}

namespace AgreesOffFrame

variable (agree : AgreesOffFrame layer r s)
include agree

theorem field? (id : Int) : r.field? id = s.field? id := by
  rw [Repository.field?, Repository.field?, agree.fields]

theorem group? (id : Int) : r.group? id = s.group? id := by
  rw [Repository.group?, Repository.group?, agree.groups]

theorem distinct_fields : r.distinct.fields = s.distinct.fields := by
  simp only [distinct, agree.fields]

theorem distinct_groups : r.distinct.groups = s.distinct.groups := by
  simp only [distinct, agree.groups]

theorem distinct_messages : r.distinct.messages = s.distinct.messages := by
  simp only [distinct, agree.messages]

theorem codeSetOf (f : Field) : r.index.codeSetOf f = s.index.codeSetOf f := by
  simp only [Index.codeSetOf, Index.codeSet?, index_codeSets, agree.codeSets]

/-- The same components are declared. -/
theorem component?_blank (id : Int) :
    (r.component? id).map layer.blank = (s.component? id).map layer.blank := by
  have find (cs : List Component) : (cs.find? (·.id == id)).map layer.blank =
      (cs.map layer.blank).find? (·.id == id) := by
    rw [List.find?_map]
    congr 2
    funext c
    simp
  rw [Repository.component?, Repository.component?, find, find, agree.components]

theorem component?_isSome (id : Int) :
    (r.component? id).isSome = (s.component? id).isSome := by
  have := congrArg Option.isSome (agree.component?_blank id)
  simpa using this

/-- The members of other components agree as well. -/
theorem component? {id : Int} (own : layer.isFrame id = false) :
    r.component? id = s.component? id := by
  have same := agree.component?_blank id
  have blank {t : Repository} : (t.component? id).map layer.blank = t.component? id := by
    cases h : t.component? id with
    | none => rfl
    | some c =>
      rw [Option.map_some, SessionLayer.blank, (component?_eq_some_iff.1 h).2, own]
      rfl
  rwa [blank, blank] at same

/-- The components with a class are the same, members and all. -/
theorem unframed_components :
    r.distinct.components.filter (fun c => !layer.isFrame c.id) =
      s.distinct.components.filter fun c => !layer.isFrame c.id := by
  have kept (cs : List Component) : cs.filter (fun c => !layer.isFrame c.id) =
      (cs.map layer.blank).filter fun c => !layer.isFrame c.id := by
    induction cs with
    | nil => rfl
    | cons c rest ih =>
      rw [List.map_cons, List.filter_cons, List.filter_cons, SessionLayer.blank_id, ← ih]
      cases own : layer.isFrame c.id with
      | true => rfl
      | false => simp [SessionLayer.blank, own]
  have first (t : Repository) : t.distinct.components.filter (fun c => !layer.isFrame c.id) =
      Context.firstOf (fun c d => c.id == d.id)
        (t.components.filter fun c => !layer.isFrame c.id) :=
    filter_firstOf fun a _ b _ h => by rw [beq_iff_eq.1 h]
  rw [first, first, kept r.components, kept s.components, agree.components]

/-! ## Walks that see no difference -/

/-- The walk over used fields prunes the header and trailer. -/
theorem fieldIds (members : List Member) (path : List Key) :
    (r.index.fieldIds layer false members path).value =
      (s.index.fieldIds layer false members path).value := by
  have framed {t : Repository} {path : List Key} {id : Int} (frame : layer.isFrame id = true) :
      (t.index.ownFieldIds layer false path (.component id)).value = [] := by
    refine List.eq_nil_iff_forall_not_mem.2 fun n hn => ?_
    obtain ⟨_, _, admitted, _⟩ := mem_ownFieldIds_component.1 hn
    exact absurd (admitted frame) (by decide)
  induction path using r.index.walk_induction generalizing members with
  | step path ih =>
    rw [Index.value_fieldIds, Index.value_fieldIds]
    refine List.flatMap_congr fun m _ => ?_
    cases m with
    | field id => rfl
    | group id =>
      rw [Index.ownFieldIds, Index.ownFieldIds, index_group?, index_group?, ← agree.group?]
      cases hg : r.group? id with
      | none => rfl
      | some g =>
        by_cases visited : Key.group g.id ∈ path
        · simp [visited]
        · have inner := ih _ (Index.group_mem_keys (index_group? r id ▸ hg)) visited g.members
          simp [visited, inner]
    | component id =>
      cases frame : layer.isFrame id with
      | true => rw [framed frame, framed frame]
      | false =>
        rw [Index.ownFieldIds, Index.ownFieldIds, index_component?, index_component?,
          ← agree.component? frame]
        cases hc : r.component? id with
        | none => rfl
        | some c =>
          have own : layer.isFrame c.id = false := (component?_eq_some_iff.1 hc).2 ▸ frame
          by_cases visited : Key.component c.id ∈ path
          · simp [own, visited]
          · have inner :=
              ih _ (Index.component_mem_keys (index_component? r id ▸ hc)) visited c.members
            simp [own, visited, inner]

theorem usage {options : Options} (pruned : options.messageBase = false) :
    r.usage options layer = s.usage options layer := by
  have used (messages : List Message) : (r.index.usedFieldIds layer false messages).value =
      (s.index.usedFieldIds layer false messages).value := by
    simp only [Index.usedFieldIds, Traced.value_bind, Traced.value_mapM, Traced.value_pure,
      agree.fieldIds]
  rw [Repository.usage, Repository.usage, agree.distinct_messages, Options.entersFrame, pruned]
  simp only [Index.usage, Traced.value_bind, Traced.value_pure, used]

/-- The walk over cases enters groups only. -/
theorem casesWithin (parent : String) (members : List Member) (path : List Key)
    (cases : List CounterCase) :
    (Context.casesWithin r.index parent members path cases).value =
      (Context.casesWithin s.index parent members path cases).value := by
  induction path using r.index.walk_induction generalizing members parent cases with
  | step path ih =>
    have own (cases : List CounterCase) (m : Member) :
        (Context.ownCases r.index parent path cases m).value =
          (Context.ownCases s.index parent path cases m).value := by
      cases m with
      | field id => rfl
      | component id => rfl
      | group id =>
        rw [Context.ownCases, Context.ownCases, index_group?, index_group?, ← agree.group?]
        cases hg : r.group? id with
        | none => rfl
        | some g =>
          by_cases visited : Key.group g.id ∈ path
          · simp [visited]
          · cases hc : r.field? g.counter with
            | none => simp [visited, ← agree.field?, hc]
            | some counter =>
              have inner := ih _ (Index.group_mem_keys (index_group? r id ▸ hg)) visited
              simp [visited, ← agree.field?, hc, inner]
    induction members generalizing cases with
    | nil => simp [Context.casesWithin]
    | cons m rest ihm =>
      rw [Context.casesWithin_cons, Context.casesWithin_cons, Traced.value_bind,
        Traced.value_bind, own, ihm]

/-- The walk over accessors prunes the header and trailer, so it sees no more of a difference than
the orders of repetitions do. -/
theorem accessorsOf {options : Options} (pruned : options.messageBase = false)
    (orders : ∀ id g, r.group? id = some g → (r.field? g.counter).isSome → ∀ path,
      (Context.repetitionOrder r.index g.members path).value =
        (Context.repetitionOrder s.index g.members path).value)
    (package : String) (members : List Member) (path : List Key) :
    ((r.context options layer).accessorsOf package members path).value =
      ((s.context options layer).accessorsOf package members path).value := by
  have framed {t : Repository} {path : List Key} {id : Int} (frame : layer.isFrame id = true) :
      ((t.context options layer).ownAccessors package path (.component id)).value = [] := by
    refine List.eq_nil_iff_forall_not_mem.2 fun x hx => ?_
    cases Context.mem_ownAccessors.1 hx with
    | componentClass hc own =>
      rw [context_index, index_component?] at hc
      rw [context_layer, (component?_eq_some_iff.1 hc).2, frame] at own
      exact absurd own (by decide)
    | beside hc entered =>
      rw [context_index, index_component?] at hc
      rw [context_layer, (component?_eq_some_iff.1 hc).2, frame, context_options,
        Options.entersFrame, pruned] at entered
      exact absurd (entered rfl) (by decide)
  induction path using r.index.walk_induction generalizing members with
  | step path ih =>
    rw [Context.value_accessorsOf, Context.value_accessorsOf]
    refine List.flatMap_congr fun m _ => ?_
    cases m with
    | field id =>
      simp only [Context.ownAccessors, context, Traced.value_bind, Index.value_fieldFor,
        index_field?, agree.field?]
    | group id =>
      simp only [Context.ownAccessors, context_index, index_group?, ← agree.group?]
      cases hg : r.group? id with
      | none => rfl
      | some g =>
        by_cases visited : Key.group g.id ∈ path
        · simp [visited]
        · cases hc : r.field? g.counter with
          | none => simp [visited, ← agree.field?, hc]
          | some counter =>
            have inner := ih _ (Index.group_mem_keys (index_group? r id ▸ hg)) visited g.members
            have order := orders id g hg (by rw [hc]; rfl)
            simp [visited, ← agree.field?, hc, inner, order]
    | component id =>
      cases frame : layer.isFrame id with
      | true => rw [framed frame, framed frame]
      | false =>
        simp only [Context.ownAccessors, context_index, index_component?,
          ← agree.component? frame]
        cases hc : r.component? id with
        | none => rfl
        | some c =>
          have own : layer.isFrame c.id = false := (component?_eq_some_iff.1 hc).2 ▸ frame
          by_cases visited : Key.component c.id ∈ path
          · simp [own, visited]
          · have inner := ih _ (Index.component_mem_keys (index_component? r id ▸ hc)) visited
              (c.members.filter Context.isDirect)
            simp [own, visited, inner]

/-- The order of a repetition is the same where its members do not inline the header or
trailer. -/
theorem repetitionOrder {members : List Member} (path : List Key)
    (out : ∀ id, r.InlinesDeep members (.component id) → layer.isFrame id = false) :
    (Context.repetitionOrder r.index members path).value =
      (Context.repetitionOrder s.index members path).value := by
  induction path using r.index.walk_induction generalizing members with
  | step path ih =>
    rw [Context.value_repetitionOrder, Context.value_repetitionOrder]
    refine List.flatMap_congr fun m hm => ?_
    cases m with
    | field id => rfl
    | group id => simp [Context.ownOrder, agree.group?]
    | component id =>
      rw [Context.ownOrder, Context.ownOrder, index_component?, index_component?]
      cases hc : r.component? id with
      | none =>
        have same := agree.component?_isSome id
        rw [hc, Option.isSome_none] at same
        have missing : s.component? id = none := by
          rw [← Option.not_isSome_iff_eq_none, ← same]
          decide
        rw [missing]
      | some c =>
        have frame := out id ⟨_, inlines_component hm hc, .refl⟩
        rw [← agree.component? frame, hc]
        by_cases visited : Key.component c.id ∈ path
        · simp [visited]
        · have inner := ih _ (Index.component_mem_keys (index_component? r id ▸ hc)) visited
            fun id h => out id (h.through hm hc)
          simp [visited, inner]

/-! ## Passes that see no difference -/

theorem layout (options : Options) :
    (r.context options layer).layout = (s.context options layer).layout := by
  rw [context, context, agree.version]

section Passes

variable {options : Options} (pruned : options.messageBase = false)
  (orders : ∀ id g, r.group? id = some g → (r.field? g.counter).isSome → ∀ path,
    (Context.repetitionOrder r.index g.members path).value =
      (Context.repetitionOrder s.index g.members path).value)
include pruned orders

omit orders in
theorem fieldClasses : r.fieldClasses options layer = s.fieldClasses options layer := by
  rw [Repository.fieldClasses, Repository.fieldClasses, agree.usage pruned, agree.distinct_fields]
  refine List.map_congr_left fun f _ => ?_
  simp only [Context.describeField, context_index, agree.codeSetOf, agree.layout options]

theorem groupClasses (session : Bool) :
    r.groupClasses options layer session = s.groupClasses options layer session := by
  rw [Repository.groupClasses, Repository.groupClasses, agree.distinct_groups,
    agree.layout options]
  refine List.filterMap_congr fun g hg => ?_
  have hg : r.group? g.id = some g := by
    rw [agree.group?]
    exact group?_eq_some_iff.2 ⟨(List.mem_filter.1 hg).1, rfl⟩
  simp only [Context.value_describeGroup, context_index, index_field?, ← agree.field?]
  cases hc : r.field? g.counter with
  | none => rfl
  | some counter =>
    have order := orders g.id g hg (by rw [hc]; rfl)
    simp only [Option.map_some, Context.groupClass, Context.unit, context_index, order,
      agree.accessorsOf pruned orders]

theorem componentClasses :
    r.componentClasses options layer = s.componentClasses options layer := by
  rw [Repository.componentClasses, Repository.componentClasses, describedComponents,
    describedComponents, pruned, agree.layout options]
  simp only [Bool.false_eq_true, if_false, agree.unframed_components]
  refine List.map_congr_left fun c _ => ?_
  simp [Context.describeComponent, agree.accessorsOf pruned orders]

theorem messageClasses (session : Bool) :
    r.messageClasses options layer session = s.messageClasses options layer session := by
  rw [Repository.messageClasses, Repository.messageClasses, agree.distinct_messages,
    agree.layout options]
  refine List.map_congr_left fun m _ => ?_
  simp [Context.describeMessage, agree.accessorsOf pruned orders]

omit orders in
theorem singleClasses :
    r.singleClasses options layer = s.singleClasses options layer := by
  have cases' (m : Message) : ((r.context options layer).messageCases m).value =
      ((s.context options layer).messageCases m).value := by
    simp [Context.messageCases, agree.layout options, agree.casesWithin]
  have fallback : (r.context options layer).fallbackClass =
      (s.context options layer).fallbackClass := by
    rw [Context.fallbackClass, Context.fallbackClass, agree.layout options]
  simp [Repository.singleClasses, pruned, agree.distinct_messages, agree.layout options,
    Context.describeFactory, Context.describeCracker, fallback, cases']

/-- **Only the orders of repetitions can make a difference between the classes.** -/
theorem artifacts : r.artifacts options layer = s.artifacts options layer := by
  rw [artifacts_eq, artifacts_eq, agree.fieldClasses pruned,
    agree.componentClasses pruned orders, agree.singleClasses pruned]
  simp only [funext (agree.groupClasses pruned orders), funext (agree.messageClasses pruned orders)]

end Passes

end AgreesOffFrame

end Repository
end FixBindings
