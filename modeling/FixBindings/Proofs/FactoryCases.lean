import FixBindings.Proofs.GroupChains
import Mathlib

/-!
# The cases of the factory and the inner classes of messages

For each canonical message the factory lists cases, one for each group that it creates, and a case
names an inner class of the class of the message.  `Description.FactoryRelates` pairs the two:
each canonical message with its only class and with its entry in the only factory.

`factory_complete` says that no group is missing: every inner class, however deep, has the counter
of exactly one case.  The other direction is not as good.  A case is made of a chain of groups,
and of two groups in one list of members whose counters give inner classes of one name, the class
keeps the first only, while the factory enters both.  `factory_cases_exist_iff` says which cases
have their inner class: those on a chain of foremost groups.  In `sharedCounter` a group behind
another of the same counter has a group of its own, and the case of that one names no class
(`not_factory_cases_exist`).
-/

set_option autoImplicit false

namespace FixBindings

/-! ## Messages, their classes and their entries -/

/-- The entries of a message factory, one for each message. -/
def Artifact.entries? (a : Artifact) : Option (List MessageCases) :=
  match a.body with
  | .messageFactory _ cases _ => some cases
  | _ => none

namespace Description

/-- A class is the only one of a message. -/
structure ClassOf (d : Description) (m : Message) (a : Artifact) : Prop where
  mem : a ∈ d.artifacts
  describes : a.IsClassOf m
  only : ∀ b ∈ d.artifacts, b.IsClassOf m → b = a

/-- There is one message factory.  It has an entry for each of the messages in order, and the
class of a message, its entry and the message itself are related. -/
def FactoryRelates (d : Description) (messages : List Message)
    (related : Message → Artifact → MessageCases → Prop) : Prop :=
  ∃ entries, d.artifacts.filterMap Artifact.entries? = [entries] ∧
    List.Forall₂ (fun m entry => ∃ a, d.ClassOf m a ∧
      a.package = d.layout.messagesPackage ∧ entry.messageName = a.className ∧
      related m a entry) messages entries

end Description

namespace Repository

/-- The canonical messages of the application, the first of each name. -/
def canonicalMessages (r : Repository) (layer : SessionLayer) : List Message :=
  r.distinct.messages.filter fun m => m.isBase && !layer.ownsMessage m

/-- The class of a message of the application. -/
def messageClass (r : Repository) (options : Options) (layer : SessionLayer) (m : Message) :
    Artifact :=
  ((r.context options layer).describeMessage (r.context options layer).layout.messagesPackage
    (r.context options layer).layout.componentsPackage m).value

variable {r : Repository} {options : Options} {layer : SessionLayer} {m : Message}

theorem accessors_messageClass : (r.messageClass options layer m).accessors =
    Context.unique ((r.context options layer).accessorsOf
      (r.context options layer).layout.componentsPackage m.members []).value := rfl

theorem cases_messageCases : ((r.context options layer).messageCases m).value.cases =
    (Context.casesWithin r.index (r.messageClass options layer m).qualifiedName m.members []
      []).value := rfl

/-- Only the factory has entries. -/
theorem filterMap_entries? : (r.artifacts options layer).filterMap Artifact.entries? =
    [((Context.canonicalMessages (layer.splitMessages r.distinct.messages).1).map fun m =>
      ((r.context options layer).messageCases m).value)] := by
  have none (xs : List Artifact) (h : ∀ a ∈ xs, a.entries? = none) :
      xs.filterMap Artifact.entries? = [] := List.filterMap_eq_nil_iff.2 h
  rw [artifacts_eq, List.filterMap_append, List.filterMap_append, List.filterMap_append,
    List.filterMap_append, none, none, none, none]
  · rw [singleClasses]
    split <;> simp [Context.describeFactory, Context.describeCracker,
      Context.describeMessageBase, Artifact.entries?, List.filterMap_cons]
  · intro a ha
    obtain ⟨session, -, ha⟩ := List.mem_flatMap.1 ha
    obtain ⟨m, -, rfl⟩ := List.mem_map.1 ha
    rfl
  · intro a ha
    obtain ⟨c, -, rfl⟩ := List.mem_map.1 ha
    rfl
  · intro a ha
    obtain ⟨session, -, ha⟩ := List.mem_flatMap.1 ha
    obtain ⟨g, -, -, counter, -, rfl⟩ := mem_groupClasses.1 ha
    rfl
  · intro a ha
    obtain ⟨f, -, rfl⟩ := List.mem_map.1 ha
    rfl

/-- The class of a message of either layer is the only one with its name and scenario. -/
theorem classOf_message (typed : r.WellTyped) (hm : m ∈ r.distinct.messages)
    (shown : layer.ownsMessage m → options.emitsSession) :
    (describe options layer r).value.ClassOf m ((r.context options layer).describeMessage
      ((r.context options layer).layout.messagesPackageOf (layer.ownsMessage m))
      ((r.context options layer).layout.componentsPackageOf (layer.ownsMessage m)) m).value := by
  refine ⟨mem_artifacts_iff.2 (.message hm shown), ⟨_, rfl⟩, fun b hb describes => ?_⟩
  obtain ⟨accessors, body⟩ := describes
  cases mem_artifacts_iff.1 hb with
  | @message n hn =>
    obtain ⟨name, scenario, -⟩ := ArtifactBody.message.inj body
    obtain rfl := typed.eq_of_key_eq hn hm (Prod.ext name scenario)
    rfl
  | _ => exact absurd body (by intro h; cases h)

theorem classOf_messageClass (typed : r.WellTyped) (hm : m ∈ r.distinct.messages)
    (own : layer.ownsMessage m = false) :
    (describe options layer r).value.ClassOf m (r.messageClass options layer m) := by
  have classOf := @classOf_message r options layer m typed hm fun h =>
    absurd h (by rw [own]; decide)
  rwa [own] at classOf

/-- The factory finds the canonical messages. -/
theorem canonicalMessages_eq (typed : r.WellTyped) :
    Context.canonicalMessages (layer.splitMessages r.distinct.messages).1 =
      r.canonicalMessages layer := by
  rw [SessionLayer.splitMessages, typed.canonicalMessages_eq_filter List.filter_sublist,
    List.filter_filter, canonicalMessages]

/-- **The factory relates what the class and the cases of every canonical message relate.** -/
theorem factoryRelates_iff (typed : r.WellTyped)
    {related : Message → Artifact → MessageCases → Prop} :
    (describe options layer r).value.FactoryRelates (r.canonicalMessages layer) related ↔
      ∀ m ∈ r.canonicalMessages layer, related m (r.messageClass options layer m)
        ((r.context options layer).messageCases m).value := by
  have own : ∀ m ∈ r.canonicalMessages layer,
      (describe options layer r).value.ClassOf m (r.messageClass options layer m) := by
    intro m hm
    obtain ⟨declared, canonical⟩ := List.mem_filter.1 hm
    exact classOf_messageClass typed declared (by simpa using (Bool.and_eq_true_iff.1 canonical).2)
  have entries := @filterMap_entries? r options layer
  rw [canonicalMessages_eq typed] at entries
  constructor
  · rintro ⟨_, found, h⟩ m hm
    obtain rfl := List.singleton_inj.1 (entries.symm.trans found)
    rw [List.forall₂_map_right_iff, List.forall₂_same] at h
    obtain ⟨a, classOf, -, -, h⟩ := h m hm
    rwa [classOf.only _ (own m hm).mem (own m hm).describes]
  · intro h
    refine ⟨_, entries, ?_⟩
    rw [List.forall₂_map_right_iff, List.forall₂_same]
    refine fun m hm => ⟨_, own m hm, ?_, rfl, h m hm⟩
    rw [describe_layout]
    rfl

/-! ## Every inner class has a case -/

/-- **The factory misses no group.**  A well-typed repository is described without a fault, and
for each canonical message of the application, no two cases of its entry have one counter name,
and the name of every inner class in its class, however deep, is that of exactly one case. -/
theorem factory_complete (typed : r.WellTyped) (options : Options) (layer : SessionLayer)
    (ledger : Ledger) :
    ∃ d, ((describe options layer r).run ledger).1 = .ok d ∧
      d.FactoryRelates (r.canonicalMessages layer) fun _ a entry =>
        (entry.cases.map CounterCase.counterName).Nodup ∧
        ∀ name counter delimiter order inner,
          (Accessor.group name counter delimiter order inner).Within a.accessors →
          ∃! case, case ∈ entry.cases ∧ case.counterName = name := by
  refine ⟨_, (typed.describe_clean options layer).run ledger,
    (factoryRelates_iff typed).2 fun m _ => ?_⟩
  have nodup : (((r.context options layer).messageCases m).value.cases.map
      CounterCase.counterName).Nodup := by
    rw [cases_messageCases]
    exact Context.casesWithin_induction
      (motive := fun cases => (cases.map CounterCase.counterName).Nodup) List.nodup_nil
      fun _ _ _ _ => Context.nodup_addCase
  refine ⟨nodup, fun name counter delimiter order inner within => ?_⟩
  obtain ⟨names, nests, last⟩ := within.exists_nests rfl
  rw [accessors_messageClass, Context.nests_iff_leads] at nests
  have leads : Leads r.index.counted names m.members [] :=
    nests.mono fun _ _ => Index.foremost_subset
  obtain ⟨case, hcase, hname⟩ := Context.exists_case_of_leads leads last
  refine ⟨case, ⟨hcase, hname⟩, fun other hother => ?_⟩
  exact List.inj_on_of_nodup_map nodup hother.1 hcase (hother.2.trans hname.symm)

theorem factory_complete_sample :
    (Sample.repository "FIX.4.4").WellTyped ∧ ∃ d,
      ((describe { compatible := rfl } {} (Sample.repository "FIX.4.4")).run []).1 = .ok d ∧
      d.FactoryRelates ((Sample.repository "FIX.4.4").canonicalMessages {}) fun _ a entry =>
        (entry.cases.map CounterCase.counterName).Nodup ∧
        ∀ name counter delimiter order inner,
          (Accessor.group name counter delimiter order inner).Within a.accessors →
          ∃! case, case ∈ entry.cases ∧ case.counterName = name :=
  ⟨Sample.wellTyped _, factory_complete (Sample.wellTyped _) _ _ []⟩

/-! ## Which cases have an inner class -/

/-- **Which cases of the factory have their inner class.**  A well-typed repository is described
without a fault.  For each canonical message of the application, every case names the class that
the counters along some chain of groups lead to, from the class of the message.  There are inner
classes of these names, each within the one before, exactly if the names are those of a chain in
which every group is the first among its members with the name of its inner class. -/
theorem factory_cases_exist_iff (typed : r.WellTyped) (options : Options) (layer : SessionLayer)
    (ledger : Ledger) :
    ∃ d, ((describe options layer r).run ledger).1 = .ok d ∧
      d.FactoryRelates (r.canonicalMessages layer) fun m a entry =>
        ∀ case ∈ entry.cases, ∃ names, names.getLast? = some case.counterName ∧
          case.qualifiedName = Context.qualify a.qualifiedName names ∧
          Leads r.index.counted names m.members [] ∧
          (Accessor.Nests names a.accessors ↔ Leads r.index.foremost names m.members []) := by
  refine ⟨_, (typed.describe_clean options layer).run ledger,
    (factoryRelates_iff typed).2 fun m _ => ?_⟩
  have chains : ∀ case ∈ ((r.context options layer).messageCases m).value.cases,
      ∃ names, names ≠ [] ∧ Leads r.index.counted names m.members [] ∧
        case = Context.caseAt (r.messageClass options layer m).qualifiedName names := by
    rw [cases_messageCases]
    refine Context.casesWithin_induction (motive := fun cases => ∀ case ∈ cases, ∃ names,
      names ≠ [] ∧ Leads r.index.counted names m.members [] ∧
        case = Context.caseAt (r.messageClass options layer m).qualifiedName names)
      (fun _ h => absurd h List.not_mem_nil) fun names cases ne leads ih case hcase => ?_
    rcases Context.mem_addCase hcase with hcase | rfl
    · exact ih case hcase
    · exact ⟨names, ne, leads, rfl⟩
  intro case hcase
  obtain ⟨names, ne, leads, rfl⟩ := chains case hcase
  obtain ⟨last, hlast⟩ := Option.ne_none_iff_exists'.1 (mt List.getLast?_eq_none_iff.1 ne)
  refine ⟨names, ?_, rfl, leads, Context.nests_iff_leads⟩
  rw [Context.caseAt, hlast]
  rfl

theorem factory_cases_exist_iff_sample :
    (Sample.repository "FIX.4.4").WellTyped ∧ ∃ d,
      ((describe { compatible := rfl } {} (Sample.repository "FIX.4.4")).run []).1 = .ok d ∧
      d.FactoryRelates ((Sample.repository "FIX.4.4").canonicalMessages {}) fun m a entry =>
        ∀ case ∈ entry.cases, ∃ names, names.getLast? = some case.counterName ∧
          case.qualifiedName = Context.qualify a.qualifiedName names ∧
          Leads (Sample.repository "FIX.4.4").index.counted names m.members [] ∧
          (Accessor.Nests names a.accessors ↔
            Leads (Sample.repository "FIX.4.4").index.foremost names m.members []) :=
  ⟨Sample.wellTyped _, factory_cases_exist_iff (Sample.wellTyped _) _ _ []⟩

/-- A message with two groups of one counter. -/
def sharedOrder : Message where
  name := "Order"
  msgType := "D"
  members := [.group 1, .group 2]

/-- Two groups of one counter, of which the second one has a group of its own. -/
def sharedCounter : Repository where
  version := "FIX.4.4"
  fields := [{ id := 58, name := "Text", type := "String" },
    { id := 453, name := "NoPartyIDs", type := "NumInGroup" },
    { id := 802, name := "NoPartySubIDs", type := "NumInGroup" }]
  groups := [{ id := 1, name := "ShortGrp", counter := 453, members := [.field 58] },
    { id := 2, name := "LongGrp", counter := 453, members := [.group 3] },
    { id := 3, name := "SubGrp", counter := 802, members := [.field 58] }]
  messages := [sharedOrder]

theorem sharedCounter_wellTyped : sharedCounter.WellTyped where
  fields f hf := by
    simp only [sharedCounter, List.mem_cons, List.not_mem_nil, or_false] at hf
    rcases hf with rfl | rfl | rfl <;> exact ⟨rfl, rfl, Or.inl rfl⟩
  codeSets := nofun
  components := nofun
  groups := by decide
  messages := by decide

/-- The case for the group behind the second group names a class within the inner class of the
first one, which has none. -/
theorem not_factory_cases_exist :
    ¬∀ (r : Repository) (options : Options) (layer : SessionLayer), r.WellTyped →
      ∃ d, ((describe options layer r).run []).1 = .ok d ∧
        d.FactoryRelates (r.canonicalMessages layer) fun _ a entry =>
          ∀ case ∈ entry.cases, ∃ names, names ≠ [] ∧
            case.qualifiedName = Context.qualify a.qualifiedName names ∧
            Accessor.Nests names a.accessors := by
  intro h
  obtain ⟨d, hd, related⟩ := h sharedCounter { compatible := rfl } {} sharedCounter_wellTyped
  obtain rfl := (Traced.run_eq_ok_iff.1 hd).2
  have exist := (factoryRelates_iff sharedCounter_wellTyped).1 related sharedOrder
    List.mem_cons_self
  have listed : ((sharedCounter.context { compatible := rfl } {}).messageCases
      sharedOrder).value.cases = [⟨"NoPartyIDs", "quickfix.fix44.Order.NoPartyIDs"⟩,
        ⟨"NoPartySubIDs", "quickfix.fix44.Order.NoPartyIDs.NoPartySubIDs"⟩] := by cbv
  have name : (sharedCounter.messageClass { compatible := rfl } {} sharedOrder).qualifiedName =
      "quickfix.fix44.Order" := by cbv
  have accessors : (sharedCounter.messageClass { compatible := rfl } {} sharedOrder).accessors =
      [.component "ShortGrp" "quickfix.fix44.component.ShortGrp", .field "NoPartyIDs" 453,
        .group "NoPartyIDs" 453 58 [58, 0] [.field "Text" 58],
        .component "LongGrp" "quickfix.fix44.component.LongGrp"] := by cbv
  rw [listed, name, accessors] at exist
  obtain ⟨names, ne, same, nests⟩ := exist _ (List.mem_cons_of_mem _ List.mem_cons_self)
  -- the class has one inner class, and that one has none
  cases names with
  | nil => exact absurd rfl ne
  | cons name names =>
    obtain ⟨counter, delimiter, order, inner, hunit, nests⟩ := nests
    obtain ⟨rfl, -, -, -, rfl⟩ : name = "NoPartyIDs" ∧ counter = 453 ∧ delimiter = 58 ∧
      order = [58, 0] ∧ inner = [.field "Text" 58] := by simpa using hunit
    cases names with
    | nil => exact absurd same (by decide)
    | cons name names =>
      obtain ⟨_, _, _, _, hunit, _⟩ := nests
      exact absurd hunit (by simp)

end Repository
end FixBindings
