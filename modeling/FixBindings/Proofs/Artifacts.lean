import FixBindings.Proofs.Cases

/-!
# The classes of a repository, one by one

`describe` makes the classes of a repository in seven passes, and each pass leaves something out.
`Repository.Emits` says for every class what it is made from and on what condition, and
`mem_artifacts_iff` says that these are the classes.  Where a class lies depends on its layer:
`Layout.componentsPackageOf` and `Layout.messagesPackageOf` hold the packages of the two layers.

A well-typed repository is described without a fault (`describe_clean`), so its run succeeds and
its outcome is the value that `mem_artifacts_iff` speaks of.
-/

set_option autoImplicit false

namespace FixBindings

/-- The package of the groups of a layer, and of the classes that its messages refer to. -/
def Layout.componentsPackageOf (l : Layout) (session : Bool) : String :=
  if session then l.sessionComponentsPackage else l.componentsPackage

/-- The package of the messages of a layer. -/
def Layout.messagesPackageOf (l : Layout) (session : Bool) : String :=
  if session then l.sessionMessagesPackage else l.messagesPackage

/-- The layers that are generated, where `true` stands for the session layer. -/
def Options.layers (o : Options) : List Bool := if o.emitsSession then [false, true] else [false]

theorem Options.mem_layers {o : Options} {session : Bool} :
    session ∈ o.layers ↔ (session → o.emitsSession) := by
  rw [layers]
  cases session <;> cases o.emitsSession <;> simp

/-! ## What artifacts hold -/

namespace Artifact

/-- The id of the field that a class is of. -/
def fieldId? (a : Artifact) : Option Int :=
  match a.body with
  | .field id _ _ _ _ => some id
  | _ => none

/-- The kind and id of the declaration that a class is of. -/
def declaration? (a : Artifact) : Option (ElementKind × Int) :=
  match a.body with
  | .field id _ _ _ _ => some (.field, id)
  | .component id _ _ _ isGroup => some (if isGroup then .group else .component, id)
  | _ => none

/-- Whether a class is of a component or of a group. -/
def isComponent (a : Artifact) : Bool :=
  match a.body with
  | .component .. => true
  | _ => false

/-- Whether a class is of a group. -/
def isGroup (a : Artifact) : Bool :=
  match a.body with
  | .component _ _ _ _ isGroup => isGroup
  | _ => false

/-- Whether a class is of a message. -/
def isMessage (a : Artifact) : Bool :=
  match a.body with
  | .message .. => true
  | _ => false

/-- A class is that of a message. -/
def IsClassOf (a : Artifact) (m : Message) : Prop :=
  ∃ accessors, a.body = .message m.name m.scenario m.msgType accessors

/-- The messages that the message factory or the message cracker names. -/
def messageNames (a : Artifact) : List String :=
  match a.body with
  | .messageFactory names cases _ => names ++ cases.map MessageCases.messageName
  | .messageCracker names _ => names
  | _ => []

/-- The groups that the message factory creates. -/
def counterCases (a : Artifact) : List CounterCase :=
  match a.body with
  | .messageFactory _ cases _ => cases.flatMap MessageCases.cases
  | _ => []

/-- The class that the message factory falls back on. -/
def fallback? (a : Artifact) : Option String :=
  match a.body with
  | .messageFactory _ _ fallback => some fallback
  | _ => none

end Artifact

namespace Context

/-- The class of a group whose counter is declared. -/
def groupClass (e : Context) (package : String) (g : Group) (counter : Field) : Artifact where
  package
  className := (className g.name).value
  body := .component g.id [] [counter.id]
    (unique (.field (className counter.name).value counter.id ::
      e.unit package g counter [.group g.id] ::
        (e.accessorsOf package g.members [.group g.id]).value)) true

/-- The inner class of a group stands second in its class, after the accessor of its counter. -/
theorem groupClass_second (e : Context) (package : String) (g : Group) (counter : Field) :
    (e.groupClass package g counter).accessors[1]? =
      some (e.unit package g counter [.group g.id]) := rfl

theorem value_describeGroup (e : Context) (package : String) (g : Group) :
    (e.describeGroup package g).value =
      (e.index.field? g.counter).map (e.groupClass package g) := by
  rw [describeGroup]
  cases h : e.index.field? g.counter with
  | none => simp [h]
  | some counter => simp [h, groupClass, value_repetitionOf]

end Context

namespace Repository

/-- What the classes of a repository are made from. -/
def context (r : Repository) (options : Options) (layer : SessionLayer) : Context where
  index := r.index
  layout := .ofVersion options r.version
  layer

@[simp] theorem context_index (r : Repository) (options : Options) (layer : SessionLayer) :
    (r.context options layer).index = r.index := rfl

@[simp] theorem context_layer (r : Repository) (options : Options) (layer : SessionLayer) :
    (r.context options layer).layer = layer := rfl

@[simp] theorem context_options (r : Repository) (options : Options) (layer : SessionLayer) :
    (r.context options layer).layout.options = options := rfl

/-- The fields that the two layers of a repository use. -/
def usage (r : Repository) (options : Options) (layer : SessionLayer) : Usage :=
  (r.index.usage layer options.entersFrame (layer.splitMessages r.distinct.messages).1
    (layer.splitMessages r.distinct.messages).2).value

/-- The classes of a repository. -/
def artifacts (r : Repository) (options : Options) (layer : SessionLayer) : List Artifact :=
  (describe options layer r).value.artifacts

section Emission

variable (r : Repository) (options : Options) (layer : SessionLayer)

/-- A class is among those of a repository, by what it is made from. -/
inductive Emits : Artifact → Prop
  | field {f : Field} (hf : f ∈ describedFields options (r.usage options layer) r.distinct.fields) :
      Emits ((r.context options layer).describeField f).value
  | group {g : Group} {counter : Field} (hg : g ∈ r.distinct.groups)
      (hc : r.field? g.counter = some counter)
      (shown : layer.ownsGroup g → options.emitsSession) :
      Emits ((r.context options layer).groupClass
        ((r.context options layer).layout.componentsPackageOf (layer.ownsGroup g)) g counter)
  | component {c : Component} (hc : c ∈ describedComponents options layer r.distinct.components) :
      Emits ((r.context options layer).describeComponent
        (r.context options layer).layout.componentsPackage c).value
  | message {m : Message} (hm : m ∈ r.distinct.messages)
      (shown : layer.ownsMessage m → options.emitsSession) :
      Emits ((r.context options layer).describeMessage
        ((r.context options layer).layout.messagesPackageOf (layer.ownsMessage m))
        ((r.context options layer).layout.componentsPackageOf (layer.ownsMessage m)) m).value
  | base (shown : options.messageBase) :
      Emits ((r.context options layer).describeMessageBase r.version)
  | factory :
      Emits ((r.context options layer).describeFactory
        (layer.splitMessages r.distinct.messages).1).value
  | cracker :
      Emits ((r.context options layer).describeCracker
        (layer.splitMessages r.distinct.messages).1).value

/-! ### The passes -/

/-- The classes of fields. -/
def fieldClasses : List Artifact :=
  (describedFields options (r.usage options layer) r.distinct.fields).map fun f =>
    ((r.context options layer).describeField f).value

/-- The classes of the groups of a layer. -/
def groupClasses (session : Bool) : List Artifact :=
  (r.distinct.groups.filter fun g => layer.ownsGroup g == session).filterMap fun g =>
    ((r.context options layer).describeGroup
      ((r.context options layer).layout.componentsPackageOf session) g).value

/-- The classes of components. -/
def componentClasses : List Artifact :=
  (describedComponents options layer r.distinct.components).map fun c =>
    ((r.context options layer).describeComponent
      (r.context options layer).layout.componentsPackage c).value

/-- The classes of the messages of a layer. -/
def messageClasses (session : Bool) : List Artifact :=
  (r.distinct.messages.filter fun m => layer.ownsMessage m == session).map fun m =>
    ((r.context options layer).describeMessage
      ((r.context options layer).layout.messagesPackageOf session)
      ((r.context options layer).layout.componentsPackageOf session) m).value

/-- The classes that there are one of each. -/
def singleClasses : List Artifact :=
  (if options.messageBase then [(r.context options layer).describeMessageBase r.version]
    else []) ++
  [((r.context options layer).describeFactory (layer.splitMessages r.distinct.messages).1).value,
    ((r.context options layer).describeCracker (layer.splitMessages r.distinct.messages).1).value]

/-- **The classes in the order in which they are made.** -/
theorem artifacts_eq : r.artifacts options layer =
    r.fieldClasses options layer ++ options.layers.flatMap (r.groupClasses options layer) ++
      r.componentClasses options layer ++
      options.layers.flatMap (r.messageClasses options layer) ++
      r.singleClasses options layer := by
  have groups (session : Bool) : r.groupClasses options layer session =
      ((r.distinct.groups.filter fun g => layer.ownsGroup g == session).map fun g =>
        ((r.context options layer).describeGroup
          ((r.context options layer).layout.componentsPackageOf session) g).value).filterMap
        id := by
    rw [groupClasses, List.filterMap_map]
    rfl
  rw [Options.layers]
  cases hs : options.emitsSession with
  | false =>
    simp [artifacts, describe, hs, fieldClasses, groups, componentClasses, messageClasses,
      singleClasses, context, usage, index, SessionLayer.splitGroups, SessionLayer.splitMessages,
      Layout.componentsPackageOf, Layout.messagesPackageOf]
  | true =>
    simp [artifacts, describe, hs, fieldClasses, groups, componentClasses, messageClasses,
      singleClasses, context, usage, index, SessionLayer.splitGroups, SessionLayer.splitMessages,
      Layout.componentsPackageOf, Layout.messagesPackageOf]

theorem describe_layout :
    (describe options layer r).value.layout = (r.context options layer).layout := by
  rw [describe]
  cases options.emitsSession <;> rfl

theorem describe_usage : (describe options layer r).value.usage = r.usage options layer := by
  rw [describe]
  cases options.emitsSession <;> rfl

theorem describe_index : (describe options layer r).value.index = r.index := by
  rw [describe]
  cases options.emitsSession <;> rfl

variable {r options layer} {a : Artifact}

theorem mem_groupClasses {session : Bool} : a ∈ r.groupClasses options layer session ↔
    ∃ g ∈ r.distinct.groups, layer.ownsGroup g = session ∧ ∃ counter,
      r.field? g.counter = some counter ∧
      (r.context options layer).groupClass
        ((r.context options layer).layout.componentsPackageOf session) g counter = a := by
  simp only [groupClasses, List.mem_filterMap, List.mem_filter, beq_iff_eq,
    Context.value_describeGroup, Option.map_eq_some_iff, and_assoc, context, index_field?]

/-- **The classes of a repository are those that it is said to emit.** -/
theorem mem_artifacts_iff : a ∈ r.artifacts options layer ↔ r.Emits options layer a := by
  rw [artifacts_eq]
  simp only [List.mem_append, List.mem_flatMap, Options.mem_layers, mem_groupClasses]
  constructor
  · rintro ((((h | ⟨session, shown, g, hg, rfl, counter, hc, rfl⟩) | h) | ⟨session, shown, h⟩) | h)
    · obtain ⟨f, hf, rfl⟩ := List.mem_map.1 h
      exact .field hf
    · exact .group hg hc shown
    · obtain ⟨c, hc, rfl⟩ := List.mem_map.1 h
      exact .component hc
    · obtain ⟨m, hm, rfl⟩ := List.mem_map.1 h
      obtain ⟨declared, hsession⟩ := List.mem_filter.1 hm
      obtain rfl := beq_iff_eq.1 hsession
      exact .message declared shown
    · rw [singleClasses, List.mem_append] at h
      rcases h with h | h
      · split at h
        · rename_i shown
          obtain rfl := List.mem_singleton.1 h
          exact .base shown
        · exact absurd h List.not_mem_nil
      · rcases List.mem_cons.1 h with rfl | h
        · exact .factory
        · obtain rfl := List.mem_singleton.1 h
          exact .cracker
  · intro h
    cases h with
    | field hf => exact Or.inl (Or.inl (Or.inl (Or.inl (List.mem_map.2 ⟨_, hf, rfl⟩))))
    | group hg hc shown =>
      exact Or.inl (Or.inl (Or.inl (Or.inr ⟨_, shown, _, hg, rfl, _, hc, rfl⟩)))
    | component hc => exact Or.inl (Or.inl (Or.inr (List.mem_map.2 ⟨_, hc, rfl⟩)))
    | message hm shown =>
      refine Or.inl (Or.inr ⟨_, shown, List.mem_map.2 ⟨_, List.mem_filter.2 ⟨hm, ?_⟩, rfl⟩⟩)
      exact beq_self_eq_true _
    | base shown => exact Or.inr (by simp [singleClasses, shown])
    | factory => exact Or.inr (by simp [singleClasses])
    | cracker => exact Or.inr (by simp [singleClasses])

end Emission

/-! ## Descriptions without faults -/

theorem WellTyped.codeSet {r : Repository} (typed : r.WellTyped) {name : Document} {c : CodeSet}
    (h : r.index.codeSet? name = some c) :
    c.type.isText ∧ ∀ code ∈ c.codes, code.name.isText := by
  have hc := List.mem_of_find?_eq_some h
  rw [index_codeSets] at hc
  exact (typed.codeSets c ((Index.mem_foldl_addFirst hc).resolve_left List.not_mem_nil)).2

end Repository

theorem constantName_silent {d : Document} (h : d.isText) : (constantName d).Silent := by
  obtain ⟨s, rfl⟩ := Document.isText_iff.1 h
  simp [constantName, Document.toText]

theorem CodeSet.constants_silent {c : CodeSet} (type : c.type.isText)
    (codes : ∀ code ∈ c.codes, code.name.isText) : c.constants.Silent := by
  simp only [constants, Document.checkKey_of_isText type, Traced.silent_bind, Traced.silent_mapM,
    Traced.silent_ofExcept_ok, Traced.silent_pure, and_true, true_and]
  exact fun code hcode => constantName_silent (codes code hcode)

/-- The code set of a field is looked up without a fault if what names it is a text. -/
theorem Index.codeSetOf_clean {index : Index} {f : Field} (type : f.type.isText)
    (codeSet : f.codeSet = .null ∨ f.codeSet.isText) : (index.codeSetOf f).Clean := by
  rw [codeSetOf]
  split
  · rename_i h
    rcases codeSet with null | codeSet
    · rw [null] at h
      exact absurd h (by decide)
    · simp [Document.checkKey_of_isText codeSet]
  · simp [Document.checkKey_of_isText type]

namespace Repository

variable {r : Repository} {options : Options} {layer : SessionLayer}

theorem WellTyped.context_named (typed : r.WellTyped) (options : Options)
    (layer : SessionLayer) : (r.context options layer).index.Named := typed.named

/-- What the code set of a field is looked up by makes no difference to where it comes from. -/
theorem WellTyped.of_codeSetOf (typed : r.WellTyped) {f : Field} {c : CodeSet}
    (h : (r.index.codeSetOf f).value = some c) :
    c.type.isText ∧ ∀ code ∈ c.codes, code.name.isText := by
  rw [Index.codeSetOf] at h
  split at h
  · exact typed.codeSet h
  · exact typed.codeSet h

theorem WellTyped.describeField_clean (typed : r.WellTyped) {f : Field}
    (slots : f.name.isText ∧ f.type.isText ∧ (f.codeSet = .null ∨ f.codeSet.isText)) :
    ((r.context options layer).describeField f).Clean := by
  obtain ⟨name, type, codeSet⟩ := slots
  simp only [Context.describeField, context, Traced.clean_bind, Index.codeSetOf_clean type codeSet,
    className_clean name, true_and, Traced.clean_pure, and_true]
  cases h : (r.index.codeSetOf f).value with
  | none => simp [Document.checkKey_of_isText type]
  | some c =>
    obtain ⟨type, codes⟩ := typed.of_codeSetOf h
    simp [Document.checkKey_of_isText type, (CodeSet.constants_silent type codes).clean]

theorem WellTyped.describeGroup_clean (typed : r.WellTyped) {g : Group} (name : g.name.isText)
    (package : String) : ((r.context options layer).describeGroup package g).Clean := by
  have named := typed.context_named options layer
  rw [Context.describeGroup]
  simp only [Traced.clean_bind, Index.fieldFor_clean, Index.value_fieldFor, true_and]
  cases hc : (r.context options layer).index.field? g.counter with
  | none => simp
  | some counter =>
    have counterName := named.field hc
    simp [className_clean counterName, className_clean name,
      Context.repetitionOf_clean named counterName, Context.accessorsOf_clean named]

theorem WellTyped.describeComponent_clean (typed : r.WellTyped) {c : Component}
    (name : c.name.isText) (package : String) :
    ((r.context options layer).describeComponent package c).Clean := by
  simp [Context.describeComponent, className_clean name,
    Context.accessorsOf_clean (typed.context_named options layer)]

theorem WellTyped.messageClassName_silent (typed : r.WellTyped) {m : Message}
    (hm : m ∈ r.messages) : m.className.Silent := by
  obtain ⟨name, -, scenario⟩ := typed.messages m hm
  exact Context.messageClassName_silent name scenario

theorem WellTyped.describeMessage_clean (typed : r.WellTyped) {m : Message}
    (name : m.className.Clean) (package componentsPackage : String) :
    ((r.context options layer).describeMessage package componentsPackage m).Clean := by
  simp [Context.describeMessage, name,
    Context.accessorsOf_clean (typed.context_named options layer)]

theorem distinct_fields_subset : r.distinct.fields ⊆ r.fields := fun _ => mem_of_mem_firstOf

theorem distinct_components_subset : r.distinct.components ⊆ r.components :=
  fun _ => mem_of_mem_firstOf

theorem distinct_groups_subset : r.distinct.groups ⊆ r.groups := fun _ => mem_of_mem_firstOf

theorem distinct_messages_subset : r.distinct.messages ⊆ r.messages := fun _ => mem_of_mem_firstOf

theorem describedFields_subset (o : Options) (usage : Usage) (fields : List Field) :
    describedFields o usage fields ⊆ fields := by
  rw [describedFields]
  split
  · exact fun _ h => (List.mem_filter.1 h).1
  · exact List.Subset.refl _

theorem describedComponents_subset (o : Options) (layer : SessionLayer)
    (components : List Component) : describedComponents o layer components ⊆ components := by
  rw [describedComponents]
  split
  · exact List.Subset.refl _
  · exact fun _ h => (List.mem_filter.1 h).1

/-- **A well-typed repository is described without a fault**, dangling references, repeated
declarations and cycles or not. -/
theorem WellTyped.describe_clean (typed : r.WellTyped) (options : Options)
    (layer : SessionLayer) : (describe options layer r).Clean := by
  have named := typed.context_named options layer
  have messages (p : Message → Bool) : ∀ m ∈ r.distinct.messages.filter p, m ∈ r.messages :=
    fun m hm => distinct_messages_subset (List.mem_filter.1 hm).1
  have groups (p : Group → Bool) : ∀ g ∈ r.distinct.groups.filter p, g ∈ r.groups :=
    fun g hg => distinct_groups_subset (List.mem_filter.1 hg).1
  have names (p : Message → Bool) : ∀ m ∈ r.distinct.messages.filter p, m.className.Clean :=
    fun m hm => (typed.messageClassName_silent (messages p m hm)).clean
  have fields : ∀ f ∈ describedFields options (r.usage options layer) r.distinct.fields,
      ((r.context options layer).describeField f).Clean :=
    fun f hf => typed.describeField_clean
      (typed.fields f (distinct_fields_subset (describedFields_subset _ _ _ hf)))
  have components : ∀ c ∈ describedComponents options layer r.distinct.components,
      c ∈ r.components :=
    fun c hc => distinct_components_subset (describedComponents_subset _ _ _ hc)
  have usage (application session : List Message) :
      (r.index.usage layer options.entersFrame application session).Clean := by
    simp [Index.usage, Index.usedFieldIds_clean]
  rw [describe]
  cases options.emitsSession with
  | false =>
    simp only [Traced.clean_bind, Traced.clean_mapM, Traced.clean_pure, and_true,
      Bool.false_eq_true, if_false, true_and]
    exact ⟨typed.index_clean, usage _ _, fields,
      fun g hg => typed.describeGroup_clean (typed.groups g (groups _ g hg)) _,
      fun c hc => typed.describeComponent_clean (typed.components c (components c hc)) _,
      fun m hm => typed.describeMessage_clean (names _ m hm) _ _,
      Context.describeFactory_clean named (names _),
      Context.describeCracker_clean (names _)⟩
  | true =>
    simp only [Traced.clean_bind, Traced.clean_mapM, Traced.clean_pure, and_true, if_true]
    exact ⟨typed.index_clean, usage _ _, fields,
      fun g hg => typed.describeGroup_clean (typed.groups g (groups _ g hg)) _,
      fun g hg => typed.describeGroup_clean (typed.groups g (groups _ g hg)) _,
      fun c hc => typed.describeComponent_clean (typed.components c (components c hc)) _,
      fun m hm => typed.describeMessage_clean (names _ m hm) _ _,
      fun m hm => typed.describeMessage_clean (names _ m hm) _ _,
      Context.describeFactory_clean named (names _),
      Context.describeCracker_clean (names _)⟩

end Repository
end FixBindings
