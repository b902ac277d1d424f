import FixBindings.Proofs.SilentWalks

/-!
# What the diagnostics say

A description reports what is wrong with a repository where it comes across it: repeated
declarations when the index is made, dangling references and cycles along the walks, code sets
that are not declared with the fields that name them, and groups without a field with their
classes.  `Repository.Consistent` says what a repository should be like, and
`diagnostics_eq_nil_iff` says that nothing is reported exactly if it is like that, provided that no
group and no component leads back to itself and that the whole repository is described.

Every pass has a lemma that says when it is silent: `silent_ofRepository`, `describeField_silent`,
`describeGroup_silent`, `describeComponent_silent` and `describeMessage_silent`.  No declaration
escapes the passes, because a silent index leaves nothing out (`distinct_eq_self`).
-/

set_option autoImplicit false

namespace FixBindings

/-! ## The index -/

namespace Index

section Reports

variable {κ : Type} {keys : Index → List κ} {key : κ} {d : Diagnostic} {i : Index}

/-- Something is added to an index: its key is entered without a remark, unless the key is there,
and then nothing is entered and one diagnostic made. -/
structure Reports (keys : Index → List κ) (key : κ) (d : Diagnostic) (i : Index)
    (added : Traced Index) : Prop where
  fresh : key ∉ keys i → added.Silent ∧ keys added.value = keys i ++ [key]
  known : key ∈ keys i → added.remarks = [.diagnostic d] ∧ keys added.value = keys i

theorem Reports.silent_iff {added : Traced Index} (h : Reports keys key d i added) :
    added.Silent ↔ key ∉ keys i := by
  refine ⟨fun silent known => ?_, fun fresh => (h.fresh fresh).1⟩
  rw [Traced.Silent, (h.known known).1] at silent
  exact absurd silent (List.cons_ne_nil _ _)

theorem reports_ite {there : Bool} {added : Traced Index} (h : there = true ↔ key ∈ keys i)
    (silent : added.Silent) (entered : keys added.value = keys i ++ [key]) :
    Reports keys key d i (if there then do Traced.report d; return i else added) := by
  cases there with
  | true =>
    have known : key ∈ keys i := h.1 rfl
    exact ⟨fun fresh => absurd known fresh, fun _ => ⟨rfl, rfl⟩⟩
  | false =>
    have fresh : key ∉ keys i := fun known => absurd (h.2 known) (by decide)
    exact ⟨fun _ => ⟨silent, entered⟩, fun known => absurd known fresh⟩

/-- **A pass over declarations is silent exactly if no key occurs twice.** -/
theorem silent_foldlM_iff {α : Type} {add : Index → α → Traced Index} {key : α → κ}
    {d : α → Diagnostic} {xs : List α}
    (step : ∀ i, ∀ a ∈ xs, Reports keys (key a) (d a) i (add i a)) (start : (keys i).Nodup) :
    (xs.foldlM add i).Silent ↔ (keys i ++ xs.map key).Nodup := by
  induction xs generalizing i with
  | nil => simpa using start
  | cons a rest ih =>
    have first := step i a List.mem_cons_self
    rw [List.foldlM_cons, Traced.silent_bind, first.silent_iff, List.map_cons]
    by_cases fresh : key a ∉ keys i
    · have entered := (first.fresh fresh).2
      have nodup : (keys (add i a).value).Nodup := by
        rw [entered, ← List.concat_eq_append]
        exact start.concat fresh
      rw [ih (fun i b hb => step i b (List.mem_cons_of_mem a hb)) nodup, entered,
        List.append_assoc, List.singleton_append]
      exact and_iff_right fresh
    · refine iff_of_false (fun h => fresh h.1) fun nodup => fresh fun known => ?_
      exact (List.nodup_append.1 nodup).2.2 _ known _ List.mem_cons_self rfl

theorem silent_foldlM_of_empty {α : Type} {add : Index → α → Traced Index} {key : α → κ}
    {d : α → Diagnostic} {xs : List α}
    (step : ∀ i, ∀ a ∈ xs, Reports keys (key a) (d a) i (add i a)) (empty : keys i = []) :
    (xs.foldlM add i).Silent ↔ (xs.map key).Nodup := by
  rw [silent_foldlM_iff step (empty ▸ List.nodup_nil), empty, List.nil_append]

end Reports

theorem addField_reports {f : Field} (h : f.name.isText) (i : Index) :
    Reports (fun i => i.fields.map Field.id) f.id (.duplicate .field f.id) i (i.addField f) :=
  reports_ite (by simp) (by simpa using addNamed_silent h) (by simp)

theorem addComponent_reports {c : Component} (h : c.name.isText) (i : Index) :
    Reports (fun i => i.components.map Component.id) c.id (.duplicate .component c.id) i
      (i.addComponent c) :=
  reports_ite (by simp) (by simpa using addNamed_silent h) (by simp)

theorem addGroup_reports {g : Group} (h : g.name.isText) (i : Index) :
    Reports (fun i => i.groups.map Group.id) g.id (.duplicate .group g.id) i (i.addGroup g) :=
  reports_ite (by simp) (by simpa using addNamed_silent h) (by simp)

theorem addCodeSet_silent {c : CodeSet} (h : c.name.isText) (i : Index) :
    (i.addCodeSet c).Silent := by
  simpa [addCodeSet] using addNamed_silent h

theorem addMessage_reports {m : Message} (name : m.name.isText) (scenario : m.scenario.isText)
    (i : Index) : Reports (fun i => i.messages.map Message.key) m.key (repeatedScenario m) i
      (i.addMessage m) := by
  obtain ⟨n, hn⟩ := Document.isText_iff.1 name
  obtain ⟨s, hs⟩ := Document.isText_iff.1 scenario
  have key : (Document.pair m.name m.scenario).checkKey = .ok () := by rw [hn, hs]; rfl
  rw [addMessage, key]
  refine reports_ite ?_ (by simp) (by simp)
  rw [List.any_eq_true, List.mem_map]
  exact exists_congr fun n =>
    and_congr_right fun _ => (Message.sameScenario_iff name scenario n).trans eq_comm

end Index

namespace Repository

variable {r : Repository} {options : Options} {layer : SessionLayer}

/-- No id of a kind and no scenario of a message is declared twice. -/
structure Distinct (r : Repository) : Prop where
  fields : (r.fields.map Field.id).Nodup
  components : (r.components.map Component.id).Nodup
  groups : (r.groups.map Group.id).Nodup
  messages : (r.messages.map Message.key).Nodup

/-- What there is to remark on in making the index comes from four passes, each of which begins with
nothing of its kind.  The pass over code sets has nothing to say. -/
theorem WellTyped.exists_passes (typed : r.WellTyped) : ∃ i j k : Index,
    (Index.ofRepository r).remarks =
      (r.fields.foldlM Index.addField {}).remarks ++
        ((r.components.foldlM Index.addComponent i).remarks ++
          ((r.groups.foldlM Index.addGroup j).remarks ++
            (r.messages.foldlM Index.addMessage k).remarks)) ∧
      i.components = [] ∧ j.groups = [] ∧ k.messages = [] := by
  obtain ⟨namedFields, fields⟩ := Index.foldl_addField r.fields {}
  obtain ⟨namedComponents, components⟩ := Index.foldl_addComponent r.components
    ((r.fields.foldlM Index.addField {}).value)
  obtain ⟨namedGroups, groups⟩ := Index.foldl_addGroup r.groups
    (r.components.foldlM Index.addComponent (r.fields.foldlM Index.addField {}).value).value
  have codeSets (i : Index) : (r.codeSets.foldlM Index.addCodeSet i).remarks = [] :=
    Traced.silent_foldlM (fun i c hc => Index.addCodeSet_silent (typed.codeSets c hc).1 i) i
  simp only [Traced.value_foldlM] at components groups
  rw [Index.ofRepository]
  simp only [Traced.remarks_bind, Traced.value_foldlM, codeSets, List.nil_append]
  rw [Index.foldl_addCodeSet, groups, components, fields]
  exact ⟨_, _, _, rfl, rfl, rfl, rfl⟩

/-- **The index is made in silence exactly if nothing is declared twice.** -/
theorem WellTyped.silent_ofRepository (typed : r.WellTyped) :
    (Index.ofRepository r).Silent ↔ r.Distinct := by
  obtain ⟨i, j, k, passes, noComponents, noGroups, noMessages⟩ := typed.exists_passes
  have fields := Index.silent_foldlM_of_empty
    (fun i f hf => Index.addField_reports (typed.fields f hf).1 i) (i := {}) rfl
  have components := Index.silent_foldlM_of_empty
    (fun i c hc => Index.addComponent_reports (typed.components c hc) i)
    (by rw [noComponents, List.map_nil])
  have groups := Index.silent_foldlM_of_empty
    (fun i g hg => Index.addGroup_reports (typed.groups g hg) i) (by rw [noGroups, List.map_nil])
  have messages := Index.silent_foldlM_of_empty (fun i m hm => Index.addMessage_reports
    (typed.messages m hm).1 (typed.messages m hm).2.2 i) (by rw [noMessages, List.map_nil])
  rw [Traced.Silent] at fields components groups messages
  rw [Traced.Silent, passes, List.append_eq_nil_iff, List.append_eq_nil_iff,
    List.append_eq_nil_iff, fields, components, groups, messages]
  constructor
  · rintro ⟨fields, components, groups, messages⟩
    exact ⟨fields, components, groups, messages⟩
  · exact fun h => ⟨h.fields, h.components, h.groups, h.messages⟩

/-- Where nothing is declared twice, the first declarations are all of them. -/
theorem Distinct.distinct_eq_self (h : r.Distinct) (typed : r.WellTyped) : r.distinct = r := by
  have messages : Context.firstOf Message.sameScenario r.messages = r.messages := by
    refine firstOf_eq_self ((List.pairwise_map.1 h.messages).imp_of_mem fun {m n} hm _ apart => ?_)
    exact Bool.eq_false_iff.2 fun same => apart ((typed.sameScenario_iff hm n).1 same)
  rw [distinct, firstOf_eq_self_of_nodup h.fields, firstOf_eq_self_of_nodup h.components,
    firstOf_eq_self_of_nodup h.groups, messages]

/-! ## Code sets -/

/-- A field names no code set or one that is declared. -/
def KnowsCodeSet (r : Repository) (f : Field) : Prop :=
  ∀ name, f.codeSet = .text name → name ≠ "" → ∃ c ∈ r.codeSets, c.name = .text name

/-- A code set is found by its name. -/
theorem WellTyped.codeSet?_isSome_iff (typed : r.WellTyped) {name : Document} :
    (r.index.codeSet? name).isSome ↔ ∃ c ∈ r.codeSets, c.name = name := by
  rw [Index.codeSet?, List.find?_isSome, index_codeSets]
  constructor
  · rintro ⟨c, hc, same⟩
    have declared := (Index.mem_foldl_addFirst hc).resolve_left List.not_mem_nil
    exact ⟨c, declared, (Document.same_iff_eq (typed.codeSets c declared).1).1 same⟩
  · rintro ⟨c, hc, rfl⟩
    have text := (typed.codeSets c hc).1
    obtain ⟨b, hb, rfl | same⟩ := @Index.exists_mem_foldl_addFirst _
      (fun a b : CodeSet => a.name.same b.name) _ _ hc []
    · exact ⟨b, hb, (Document.same_iff_eq text).2 rfl⟩
    · exact ⟨b, hb, same⟩

theorem WellTyped.codeSetOf_silent (typed : r.WellTyped) {f : Field} (hf : f ∈ r.fields) :
    (r.index.codeSetOf f).Silent ↔ r.KnowsCodeSet f := by
  obtain ⟨-, type, codeSet⟩ := typed.fields f hf
  rcases codeSet with none | codeSet
  · refine iff_of_true ?_ fun name same => absurd (none.symm.trans same) nofun
    simp [Index.codeSetOf, none, Document.truthy, Document.checkKey_of_isText type]
  · obtain ⟨name, hname⟩ := Document.isText_iff.1 codeSet
    rw [KnowsCodeSet, hname]
    by_cases unnamed : name = ""
    · refine iff_of_true ?_ fun _ same named => absurd (Document.text.inj same ▸ unnamed) named
      simp [Index.codeSetOf, hname, unnamed, Document.truthy, Document.checkKey_of_isText type]
    · have key : (Document.text name).checkKey = .ok () := rfl
      have found := @codeSet?_isSome_iff r typed (.text name)
      simp [Index.codeSetOf, hname, unnamed, Document.truthy, key, found]

/-! ## The passes -/

theorem WellTyped.describeField_silent (typed : r.WellTyped) {f : Field} (hf : f ∈ r.fields) :
    ((r.context options layer).describeField f).Silent ↔ r.KnowsCodeSet f := by
  obtain ⟨name, type, -⟩ := typed.fields f hf
  rw [← typed.codeSetOf_silent hf]
  simp only [Context.describeField, context, Traced.silent_bind, className_silent name,
    Traced.silent_pure, and_true, true_and, and_iff_left_iff_imp]
  intro _
  cases h : (r.index.codeSetOf f).value with
  | none => simp [Document.checkKey_of_isText type]
  | some c =>
    obtain ⟨type, codes⟩ := typed.of_codeSetOf h
    simp [Document.checkKey_of_isText type, CodeSet.constants_silent type codes]

theorem WellTyped.describeComponent_silent (typed : r.WellTyped) {c : Component}
    (hc : c ∈ r.components) {package : String} :
    ((r.context options layer).describeComponent package c).Silent ↔
      ((r.context options layer).accessorsOf package c.members [.component c.id]).Silent := by
  simp [Context.describeComponent, className_silent (typed.components c hc)]

/-- The class of a group is made in silence if its counter is declared, there is nothing to say
about its members, and they give an order. -/
theorem WellTyped.describeGroup_silent (typed : r.WellTyped) {g : Group} (hg : g ∈ r.groups)
    {package : String} :
    ((r.context options layer).describeGroup package g).Silent ↔
      r.Declares (.field g.counter) ∧
      (Context.repetitionOrder r.index g.members [.group g.id]).Silent ∧
      (Context.repetitionOrder r.index g.members [.group g.id]).value ≠ [] ∧
      ((r.context options layer).accessorsOf package g.members [.group g.id]).Silent := by
  rw [declares_field_iff]
  cases h : r.field? g.counter with
  | none => simp [Context.describeGroup, h]
  | some counter =>
    have counterName := className_silent (typed.fields counter (List.mem_of_find?_eq_some h)).1
    have name := className_silent (typed.groups g hg)
    simp [Context.describeGroup, Context.repetitionOf, h, counterName, name]

theorem WellTyped.describeMessage_silent (typed : r.WellTyped) {m : Message}
    (hm : m ∈ r.messages) {package componentsPackage : String} :
    ((r.context options layer).describeMessage package componentsPackage m).Silent ↔
      ((r.context options layer).accessorsOf componentsPackage m.members []).Silent := by
  simp [Context.describeMessage, typed.messageClassName_silent hm]

/-- Every pass of a description that leaves nothing out is silent. -/
structure PassesSilent (r : Repository) (options : Options) (layer : SessionLayer) : Prop where
  index : (Index.ofRepository r).Silent
  usage : (r.index.usage layer options.entersFrame (layer.splitMessages r.distinct.messages).1
    (layer.splitMessages r.distinct.messages).2).Silent
  fields : ∀ f ∈ r.distinct.fields, ((r.context options layer).describeField f).Silent
  groups : ∀ g ∈ r.distinct.groups, ((r.context options layer).describeGroup
    ((r.context options layer).layout.componentsPackageOf (layer.ownsGroup g)) g).Silent
  components : ∀ c ∈ r.distinct.components, ((r.context options layer).describeComponent
    (r.context options layer).layout.componentsPackage c).Silent
  messages : ∀ m ∈ r.distinct.messages, ((r.context options layer).describeMessage
    ((r.context options layer).layout.messagesPackageOf (layer.ownsMessage m))
    ((r.context options layer).layout.componentsPackageOf (layer.ownsMessage m)) m).Silent
  factory : ((r.context options layer).describeFactory
    (layer.splitMessages r.distinct.messages).1).Silent
  cracker : ((r.context options layer).describeCracker
    (layer.splitMessages r.distinct.messages).1).Silent

/-- What holds of the items on either side of a division holds of all. -/
theorem forall_division {α : Type} {owned : α → Bool} {xs : List α} {p : Bool → α → Prop} :
    ((∀ a ∈ xs.filter fun a => !owned a, p false a) ∧ ∀ a ∈ xs.filter owned, p true a) ↔
      ∀ a ∈ xs, p (owned a) a := by
  constructor
  · rintro ⟨others, own⟩ a ha
    cases h : owned a with
    | false => exact others a (List.mem_filter.2 ⟨ha, by simp [h]⟩)
    | true => exact own a (List.mem_filter.2 ⟨ha, h⟩)
  · intro all
    refine ⟨fun a ha => ?_, fun a ha => ?_⟩
    · obtain ⟨ha, h⟩ := List.mem_filter.1 ha
      simpa [show owned a = false by simpa using h] using all a ha
    · obtain ⟨ha, h⟩ := List.mem_filter.1 ha
      simpa [h] using all a ha

theorem describe_silent_iff (base : options.messageBase = true)
    (shown : options.excludeSession = false) :
    (describe options layer r).Silent ↔ r.PassesSilent options layer := by
  have emitted : options.emitsSession = true := by simp [Options.emitsSession, shown]
  have groups := @forall_division _ layer.ownsGroup r.distinct.groups fun session g =>
    ((r.context options layer).describeGroup
      ((r.context options layer).layout.componentsPackageOf session) g).Silent
  have messages := @forall_division _ layer.ownsMessage r.distinct.messages fun session m =>
    ((r.context options layer).describeMessage
      ((r.context options layer).layout.messagesPackageOf session)
      ((r.context options layer).layout.componentsPackageOf session) m).Silent
  rw [describe]
  simp only [Traced.silent_bind, Traced.silent_mapM, Traced.silent_pure, and_true, emitted, if_true,
    describedFields, shown, describedComponents, base, Bool.false_eq_true, if_false]
  constructor
  · rintro ⟨index, usage, fields, general, session, components, application, sessionMessages,
      factory, cracker⟩
    exact ⟨index, usage, fields, groups.1 ⟨general, session⟩, components,
      messages.1 ⟨application, sessionMessages⟩, factory, cracker⟩
  · intro h
    exact ⟨h.index, h.usage, h.fields, (groups.2 h.groups).1, (groups.2 h.groups).2, h.components,
      (messages.2 h.messages).1, (messages.2 h.messages).2, h.factory, h.cracker⟩

/-! ## Consistency -/

/-- Nothing is declared twice, every reference and every counter leads to a declaration, every
code set that a field names is declared, and every group has a field to begin with. -/
structure Consistent (r : Repository) : Prop extends r.Distinct where
  componentMembers : ∀ c ∈ r.components, ∀ m ∈ c.members, r.Declares m
  groupMembers : ∀ g ∈ r.groups, ∀ m ∈ g.members, r.Declares m
  messageMembers : ∀ n ∈ r.messages, ∀ m ∈ n.members, r.Declares m
  counters : ∀ g ∈ r.groups, r.Declares (.field g.counter)
  codeSets : ∀ f ∈ r.fields, r.KnowsCodeSet f
  filled : ∀ g ∈ r.groups, r.Fills g.members

theorem Consistent.closed (consistent : r.Consistent) : r.Closed :=
  forall_membersOf consistent.groupMembers consistent.componentMembers

section Passes

variable (consistent : r.Consistent) (typed : r.WellTyped) (acyclic : r.Acyclic)
include consistent

theorem Consistent.ahead_message {m : Message} (hm : m ∈ r.distinct.messages) :
    r.Ahead m.members [] :=
  ahead_nil (consistent.messageMembers m (distinct_messages_subset hm))

theorem Consistent.ahead_group {g : Group} (hg : g ∈ r.distinct.groups) :
    r.Ahead g.members [.group g.id] :=
  ahead_node consistent.closed (members_subset_group (group?_eq_some_iff.2 ⟨hg, rfl⟩))

theorem Consistent.ahead_component {c : Component} (hc : c ∈ r.distinct.components) :
    r.Ahead c.members [.component c.id] :=
  ahead_node consistent.closed (members_subset_component (component?_eq_some_iff.2 ⟨hc, rfl⟩))

include acyclic

theorem Consistent.usedFieldIds_silent {framed : Bool} {messages : List Message}
    (sub : messages ⊆ r.distinct.messages) :
    (r.index.usedFieldIds layer framed messages).Silent := by
  simp only [Index.usedFieldIds, Traced.silent_bind, Traced.silent_mapM, Traced.silent_pure,
    and_true]
  exact fun m hm =>
    (consistent.ahead_message (sub hm)).fieldIds acyclic consistent.closed layer framed

include typed

theorem Consistent.accessorsOf_silent {members : List Member} {path : List Key}
    (ahead : r.Ahead members path) (package : String) :
    ((r.context options layer).accessorsOf package members path).Silent :=
  ahead.accessorsOf acyclic consistent.closed typed consistent.counters consistent.filled options
    layer package

theorem Consistent.messageCases_silent {m : Message} (hm : m ∈ r.distinct.messages) :
    ((r.context options layer).messageCases m).Silent := by
  have name := typed.messageClassName_silent (distinct_messages_subset hm)
  have cases := (consistent.ahead_message hm).casesWithin acyclic consistent.closed typed
    consistent.counters
  simp [Context.messageCases, name, cases]

/-- A consistent repository gives no pass anything to report. -/
theorem Consistent.passesSilent : r.PassesSilent options layer := by
  have filtered (p : Message → Bool) : r.distinct.messages.filter p ⊆ r.distinct.messages :=
    fun _ hm => (List.mem_filter.1 hm).1
  have canonical := List.Subset.trans (Context.canonicalMessages_subset _)
    (filtered fun m => !layer.ownsMessage m)
  refine
    { index := typed.silent_ofRepository.2 consistent.toDistinct
      usage := ?_
      fields := fun f hf => ?_
      groups := fun g hg => ?_
      components := fun c hc => ?_
      messages := fun m hm => ?_
      factory := ?_
      cracker := ?_ }
  · rw [Index.usage, Traced.silent_bind, Traced.silent_bind]
    exact ⟨consistent.usedFieldIds_silent acyclic (filtered _),
      consistent.usedFieldIds_silent acyclic (filtered _), Traced.silent_pure _⟩
  · have declared := distinct_fields_subset hf
    exact (typed.describeField_silent declared).2 (consistent.codeSets f declared)
  · have declared := distinct_groups_subset hg
    have ahead := consistent.ahead_group hg
    exact (typed.describeGroup_silent declared).2 ⟨consistent.counters g declared,
      ahead.repetitionOrder acyclic consistent.closed,
      ahead.order_ne_nil acyclic consistent.closed (consistent.filled g declared),
      consistent.accessorsOf_silent typed acyclic ahead _⟩
  · exact (typed.describeComponent_silent (distinct_components_subset hc)).2
      (consistent.accessorsOf_silent typed acyclic (consistent.ahead_component hc) _)
  · exact (typed.describeMessage_silent (distinct_messages_subset hm)).2
      (consistent.accessorsOf_silent typed acyclic (consistent.ahead_message hm) _)
  · simp only [Context.describeFactory, Traced.silent_bind, Traced.silent_mapM,
      Traced.silent_pure, and_true]
    exact fun m hm => consistent.messageCases_silent typed acyclic (canonical hm)
  · simp only [Context.describeCracker, Traced.silent_bind, Traced.silent_mapM,
      Traced.silent_pure, and_true]
    exact fun m hm => typed.messageClassName_silent (distinct_messages_subset (canonical hm))

end Passes

/-- Passes with nothing to report have seen the whole of a consistent repository. -/
theorem PassesSilent.consistent (silent : r.PassesSilent options layer) (typed : r.WellTyped) :
    r.Consistent := by
  have distinct := typed.silent_ofRepository.1 silent.index
  obtain ⟨-, -, fields, groups, components, messages, -, -⟩ := silent
  rw [distinct.distinct_eq_self typed] at fields groups components messages
  have ofGroup := fun g hg => (typed.describeGroup_silent hg).1 (groups g hg)
  exact
    { toDistinct := distinct
      componentMembers := fun c hc =>
        declares_of_silent ((typed.describeComponent_silent hc).1 (components c hc))
      groupMembers := fun g hg => declares_of_silent (ofGroup g hg).2.2.2
      messageMembers := fun m hm =>
        declares_of_silent ((typed.describeMessage_silent hm).1 (messages m hm))
      counters := fun g hg => (ofGroup g hg).1
      codeSets := fun f hf => (typed.describeField_silent hf).1 (fields f hf)
      filled := fun g hg => fills_of_order_ne_nil (ofGroup g hg).2.2.1 }

/-- **The diagnostics are sound and complete.**  Take a well-typed repository where no group and
no component leads back to itself, and describe all of it, the message base and the session layer
included.  There are no diagnostics exactly if the repository is consistent. -/
theorem diagnostics_eq_nil_iff (typed : r.WellTyped) (acyclic : r.Acyclic)
    (base : options.messageBase = true) (shown : options.excludeSession = false)
    (layer : SessionLayer) :
    ∃ d, ((describe options layer r).run []).1 = .ok d ∧
      (((describe options layer r).run []).2 = [] ↔ r.Consistent) := by
  have clean := typed.describe_clean options layer
  refine ⟨_, clean.run [], ?_⟩
  rw [clean.ledger_eq_nil_iff, describe_silent_iff base shown]
  exact ⟨fun silent => silent.consistent typed,
    fun consistent => consistent.passesSilent typed acyclic⟩

end Repository

namespace Sample

/-- How many groups and components lie within one another behind a node of the sample. -/
def rank : Key → Nat
  | .group 1012 => 1
  | .component 1012 => 2
  | .component 1024 => 1
  | _ => 0

theorem acyclic (version : String) : (repository version).Acyclic :=
  Repository.acyclic_of_rank rank (by decide : ∀ g ∈ groups, _) (by decide : ∀ c ∈ components, _)

end Sample

theorem Repository.diagnostics_eq_nil_iff_sample :
    (Sample.repository "FIX.4.4").WellTyped ∧ (Sample.repository "FIX.4.4").Acyclic ∧ ∃ d,
      ((describe ⟨{ messageBase := true }, rfl⟩ {} (Sample.repository "FIX.4.4")).run []).1 =
        .ok d ∧
      (((describe ⟨{ messageBase := true }, rfl⟩ {} (Sample.repository "FIX.4.4")).run []).2 = [] ↔
        (Sample.repository "FIX.4.4").Consistent) :=
  ⟨Sample.wellTyped _, Sample.acyclic _,
    diagnostics_eq_nil_iff (Sample.wellTyped _) (Sample.acyclic _) rfl rfl {}⟩

end FixBindings
