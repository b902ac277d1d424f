import FixBindings.Proofs.Artifacts

/-!
# Classes that refer to each other

The accessors of a class name other classes.  They are made by walks through the index, while the
classes themselves come from passes over the declarations, and each side skips what it must: a
group without a declared counter, the standard header and trailer, a repeated declaration.
`Emits.describes` puts what an accessor may name in terms of declarations,
`Emits.referencePackage_eq` says of which layer the package is that it names, and the lemmas on
`Emits` say when a declaration has a class.  The two meet in `describe_closed`: where the session
layer is generated into the packages of the application, every class that is referred to is
generated too.
-/

set_option autoImplicit false

namespace FixBindings

/-- The package of the component and group classes that a class refers to. -/
def Artifact.referencePackage (a : Artifact) : String :=
  if a.isMessage then a.package ++ ".component" else a.package

/-- The component and group classes that the classes refer to are among them. -/
def Description.ComponentsClosed (d : Description) : Prop :=
  ∀ a ∈ d.artifacts, ∀ name qualified,
    (Accessor.component name qualified).Within a.accessors →
    ∃ b ∈ d.artifacts, b.isComponent ∧ b.qualifiedName = qualified

/-- All that the classes refer to is among them. -/
structure Description.Closed (d : Description) : Prop where
  fields : ∀ a ∈ d.artifacts, ∀ name id, (Accessor.field name id).Within a.accessors →
    ∃ b ∈ d.artifacts, b.package = fieldsPackage ∧ b.className = name ∧ b.fieldId? = some id
  components : d.ComponentsClosed
  messages : ∀ a ∈ d.artifacts, ∀ name ∈ a.messageNames,
    ∃ b ∈ d.artifacts, b.isMessage ∧ b.package = d.layout.messagesPackage ∧ b.className = name
  counters : ∀ a ∈ d.artifacts, ∀ case ∈ a.counterCases,
    ∃ b ∈ d.artifacts, b.fieldId?.isSome ∧ b.className = case.counterName
  fallback : ∀ a ∈ d.artifacts, ∀ qualified ∈ a.fallback?,
    qualified ≠ libraryPackage ++ ".Message" → ∃ b ∈ d.artifacts, b.qualifiedName = qualified

namespace Context

/-- The accessors of the class of a declared group are those of declarations. -/
theorem describes_groupClass {e : Context} {package : String} {g : Group} {counter : Field}
    (hg : e.index.group? g.id = some g) (hc : e.index.field? g.counter = some counter)
    {x : Accessor} (h : x ∈ (e.groupClass package g counter).accessors) :
    e.Describes package x := by
  rcases List.mem_cons.1 (unique_subset _ h) with rfl | h
  · exact .field hc
  · rcases List.mem_cons.1 h with rfl | h
    · exact .unit hg hc
    · exact describes_of_mem h

theorem Describes.field_inv {e : Context} {package name : String} {id : Int}
    (h : e.Describes package (.field name id)) :
    ∃ f, e.index.field? id = some f ∧ name = (className f.name).value := by
  cases h with
  | @field id f hf =>
    have same : f.id = id := by simpa using List.find?_some hf
    exact ⟨f, same ▸ hf, rfl⟩

/-- An accessor of a class is that of a group with a declared counter, or that of a component
other than the standard header and trailer. -/
theorem Describes.component_inv {e : Context} {package name qualified : String}
    (h : e.Describes package (.component name qualified)) :
    qualified = package ++ "." ++ name ∧
      ((∃ id g counter, e.index.group? id = some g ∧ e.index.field? g.counter = some counter ∧
          name = (className g.name).value) ∨
        ∃ id c, e.index.component? id = some c ∧ e.layer.isFrame c.id = false ∧
          name = (className c.name).value) := by
  cases h with
  | groupClass hg hc => exact ⟨rfl, Or.inl ⟨_, _, _, hg, hc, rfl⟩⟩
  | componentClass hc own => exact ⟨rfl, Or.inr ⟨_, _, hc, own, rfl⟩⟩

end Context

/-! ## What the message factory and the message cracker name -/

namespace Context

variable {e : Context} {messages : List Message}

theorem mem_factory_messageNames {name : String}
    (h : name ∈ (e.describeFactory messages).value.messageNames) :
    ∃ m ∈ messages, name = m.className.value := by
  have names : (e.describeFactory messages).value.messageNames =
      ((canonicalMessages messages).mapM e.messageCases).value.map MessageCases.messageName ++
        ((canonicalMessages messages).mapM e.messageCases).value.map MessageCases.messageName := rfl
  rw [names, List.mem_append, or_self, Traced.value_mapM, List.map_map] at h
  obtain ⟨m, hm, rfl⟩ := List.mem_map.1 h
  exact ⟨m, canonicalMessages_subset messages hm, rfl⟩

theorem mem_cracker_messageNames {name : String}
    (h : name ∈ (e.describeCracker messages).value.messageNames) :
    ∃ m ∈ messages, name = m.className.value := by
  have names : (e.describeCracker messages).value.messageNames =
      firstOf (· == ·) ((canonicalMessages messages).mapM Message.className).value := rfl
  rw [names, Traced.value_mapM] at h
  obtain ⟨m, hm, rfl⟩ := List.mem_map.1 (mem_of_mem_firstOf h)
  exact ⟨m, canonicalMessages_subset messages hm, rfl⟩

/-- Every group that the factory creates is counted by a declared field. -/
theorem mem_factory_counterCases {case : CounterCase}
    (h : case ∈ (e.describeFactory messages).value.counterCases) :
    ∃ id f, e.index.field? id = some f ∧ case.counterName = (className f.name).value := by
  have cases' : (e.describeFactory messages).value.counterCases =
      ((canonicalMessages messages).mapM e.messageCases).value.flatMap MessageCases.cases := rfl
  rw [cases', Traced.value_mapM, List.flatMap_map] at h
  obtain ⟨m, -, h⟩ := List.mem_flatMap.1 h
  exact (counter_of_mem_cases h).resolve_left List.not_mem_nil

theorem fallback?_describeFactory (e : Context) (messages : List Message) :
    (e.describeFactory messages).value.fallback? = some e.fallbackClass := rfl

end Context

namespace Layout

/-- The messages of a layer refer to the components and groups of the same layer. -/
theorem messagesPackageOf_component (l : Layout) (session : Bool) :
    l.messagesPackageOf session ++ ".component" = l.componentsPackageOf session := by
  cases session with
  | false => rfl
  | true =>
    simp only [messagesPackageOf, componentsPackageOf, sessionMessagesPackage,
      sessionComponentsPackage, if_true]
    split
    · rfl
    · rfl

end Layout

theorem Context.referencePackage_describeMessage (e : Context) (session : Bool) (m : Message) :
    (e.describeMessage (e.layout.messagesPackageOf session)
      (e.layout.componentsPackageOf session) m).value.referencePackage =
    e.layout.componentsPackageOf session :=
  Layout.messagesPackageOf_component _ _

namespace Repository

variable {r : Repository} {options : Options} {layer : SessionLayer} {a : Artifact}

/-- A class belongs to the session layer: it is that of a session message, or of a group that only
session messages use. -/
def OfSession (r : Repository) (layer : SessionLayer) (a : Artifact) : Prop :=
  (∃ m ∈ r.distinct.messages, layer.ownsMessage m ∧ a.IsClassOf m) ∨
  ∃ id ∈ layer.groupIds, a.declaration? = some (.group, id)

/-- **Every accessor of a class is that of a declaration**, and names classes in the package that
goes with the class itself. -/
theorem Emits.describes (h : r.Emits options layer a) {x : Accessor}
    (hx : x.Within a.accessors) :
    (r.context options layer).Describes a.referencePackage x := by
  refine .of_within (fun y hy => ?_) hx
  cases h with
  | field => exact absurd hy List.not_mem_nil
  | @group g counter hg hc =>
    have declared : r.index.group? g.id = some g := by
      rw [index_group?]
      exact group?_eq_some_iff.2 ⟨hg, rfl⟩
    exact Context.describes_groupClass declared (by rw [← index_field?] at hc; exact hc) hy
  | component => exact Context.describes_of_mem (Context.unique_subset _ hy)
  | message =>
    rw [Context.referencePackage_describeMessage]
    exact Context.describes_of_mem (Context.unique_subset _ hy)
  | base => exact absurd hy List.not_mem_nil
  | factory => exact absurd hy List.not_mem_nil
  | cracker => exact absurd hy List.not_mem_nil

/-- A class that names a component refers to those in the components package of its own layer. -/
theorem Emits.referencePackage_eq (typed : r.WellTyped) (h : r.Emits options layer a)
    {x : Accessor} (hx : x.Within a.accessors) :
    ∃ session : Bool, (session ↔ r.OfSession layer a) ∧ a.referencePackage =
      (r.context options layer).layout.componentsPackageOf session := by
  cases h with
  | @group g counter hg hc shown =>
    refine ⟨layer.ownsGroup g,
      ⟨fun own => Or.inr ⟨g.id, List.contains_iff_mem.1 own, rfl⟩, ?_⟩, rfl⟩
    rintro (⟨m, -, -, accessors, body⟩ | ⟨id, hid, declares⟩)
    · exact absurd body nofun
    · obtain ⟨-, rfl⟩ := Prod.mk.inj (Option.some.inj declares)
      exact List.contains_iff_mem.2 hid
  | component hc =>
    refine ⟨false, iff_of_false Bool.false_ne_true ?_, rfl⟩
    rintro (⟨m, -, -, accessors, body⟩ | ⟨id, -, declares⟩)
    · exact absurd body nofun
    · exact absurd declares nofun
  | @message m hm shown =>
    refine ⟨layer.ownsMessage m, ⟨fun own => Or.inl ⟨m, hm, own, _, rfl⟩, ?_⟩,
      Context.referencePackage_describeMessage _ _ _⟩
    rintro (⟨n, hn, own, accessors, body⟩ | ⟨id, -, declares⟩)
    · obtain ⟨name, scenario, -⟩ := ArtifactBody.message.inj body
      rwa [typed.eq_of_key_eq hm hn (Prod.ext name scenario)]
    · exact absurd declares nofun
  | _ => exact absurd hx Accessor.not_within_nil

/-- A class of a component or group lies in the components package of a layer. -/
theorem Emits.package_of_isComponent (h : r.Emits options layer a) (component : a.isComponent) :
    ∃ session, a.package = (r.context options layer).layout.componentsPackageOf session := by
  cases h with
  | group => exact ⟨_, rfl⟩
  | component => exact ⟨false, rfl⟩
  | _ => exact absurd component Bool.false_ne_true

/-! ## Declarations with a class -/

theorem described_field (layer : SessionLayer) {id : Int} {f : Field}
    (included : options.excludeSession = false) (hf : r.field? id = some f) :
    ∃ b ∈ r.artifacts options layer, b.package = fieldsPackage ∧
      b.className = (className f.name).value ∧ b.fieldId? = some f.id := by
  refine ⟨_, mem_artifacts_iff.2 (.field ?_), rfl, rfl, rfl⟩
  rw [describedFields, included]
  exact (field?_eq_some_iff.1 hf).1

theorem described_group (layer : SessionLayer) {id : Int} {g : Group} {counter : Field}
    (included : options.excludeSession = false) (hg : r.group? id = some g)
    (hc : r.field? g.counter = some counter) :
    ∃ b ∈ r.artifacts options layer, b.isComponent ∧
      b.package = (r.context options layer).layout.componentsPackageOf (layer.ownsGroup g) ∧
      b.className = (className g.name).value := by
  refine ⟨_, mem_artifacts_iff.2 (.group (group?_eq_some_iff.1 hg).1 hc fun _ => ?_), rfl, rfl, rfl⟩
  rw [Options.emitsSession, included]
  rfl

theorem described_component (options : Options) (layer : SessionLayer) {id : Int} {c : Component}
    (hc : r.component? id = some c) (own : layer.isFrame c.id = false) :
    ∃ b ∈ r.artifacts options layer, b.isComponent ∧
      b.package = (r.context options layer).layout.componentsPackage ∧
      b.className = (className c.name).value := by
  refine ⟨_, mem_artifacts_iff.2 (.component ?_), rfl, rfl, rfl⟩
  have declared := (component?_eq_some_iff.1 hc).1
  rw [describedComponents]
  split
  · exact declared
  · exact List.mem_filter.2 ⟨declared, by rw [own]; rfl⟩

theorem described_message (options : Options) {m : Message}
    (hm : m ∈ (layer.splitMessages r.distinct.messages).1) :
    ∃ b ∈ r.artifacts options layer, b.isMessage ∧
      b.package = (r.context options layer).layout.messagesPackage ∧
      b.className = m.className.value := by
  obtain ⟨declared, own⟩ := List.mem_filter.1 hm
  have own : layer.ownsMessage m = false := by simpa using own
  refine ⟨_, mem_artifacts_iff.2 (.message declared fun h => ?_), rfl, ?_, rfl⟩
  · exact absurd h (by simp [own])
  · show Layout.messagesPackageOf _ _ = _
    rw [own]
    rfl

/-! ## What a class names is generated -/

theorem Emits.named_field (h : r.Emits options layer a) (included : options.excludeSession = false)
    {name : String} {id : Int} (hx : (Accessor.field name id).Within a.accessors) :
    ∃ b ∈ r.artifacts options layer, b.package = fieldsPackage ∧ b.className = name ∧
      b.fieldId? = some id := by
  obtain ⟨f, hf, rfl⟩ := (h.describes hx).field_inv
  rw [context_index, index_field?] at hf
  obtain rfl := (field?_eq_some_iff.1 hf).2
  exact described_field layer included hf

/-- A class that refers to a component or group looks for it in the package that goes with the
class itself, and there is a class of that name, if not in that package. -/
theorem Emits.named_component (h : r.Emits options layer a)
    (included : options.excludeSession = false) {name qualified : String}
    (hx : (Accessor.component name qualified).Within a.accessors) :
    qualified = a.referencePackage ++ "." ++ name ∧
      ∃ b ∈ r.artifacts options layer, b.isComponent ∧ b.className = name := by
  obtain ⟨rfl, ⟨id, g, counter, hg, hc, rfl⟩ | ⟨id, c, hc, own, rfl⟩⟩ :=
    (h.describes hx).component_inv
  · rw [context_index, index_group?] at hg
    rw [context_index, index_field?] at hc
    obtain ⟨b, hb, component, -, className⟩ := described_group layer included hg hc
    exact ⟨rfl, b, hb, component, className⟩
  · rw [context_index, index_component?] at hc
    obtain ⟨b, hb, component, -, className⟩ := described_component options layer hc own
    exact ⟨rfl, b, hb, component, className⟩

theorem Emits.named_message (h : r.Emits options layer a) {name : String}
    (hname : name ∈ a.messageNames) :
    ∃ b ∈ r.artifacts options layer, b.isMessage ∧
      b.package = (r.context options layer).layout.messagesPackage ∧ b.className = name := by
  have named : ∃ m ∈ (layer.splitMessages r.distinct.messages).1, name = m.className.value := by
    cases h with
    | factory => exact Context.mem_factory_messageNames hname
    | cracker => exact Context.mem_cracker_messageNames hname
    | _ => exact absurd hname List.not_mem_nil
  obtain ⟨m, hm, rfl⟩ := named
  exact described_message options hm

theorem Emits.named_counter (h : r.Emits options layer a)
    (included : options.excludeSession = false) {case : CounterCase}
    (hcase : case ∈ a.counterCases) :
    ∃ b ∈ r.artifacts options layer, b.fieldId?.isSome ∧ b.className = case.counterName := by
  have counted : ∃ id f, r.index.field? id = some f ∧
      case.counterName = (className f.name).value := by
    cases h with
    | factory => exact Context.mem_factory_counterCases hcase
    | _ => exact absurd hcase List.not_mem_nil
  obtain ⟨id, f, hf, hname⟩ := counted
  rw [index_field?] at hf
  obtain ⟨b, hb, -, className, fieldId⟩ := described_field layer included hf
  exact ⟨b, hb, by rw [fieldId]; rfl, by rw [className, hname]⟩

theorem Emits.named_fallback (h : r.Emits options layer a) {qualified : String}
    (hq : qualified ∈ a.fallback?) (own : qualified ≠ libraryPackage ++ ".Message") :
    ∃ b ∈ r.artifacts options layer, b.qualifiedName = qualified := by
  cases h with
  | factory =>
    rw [Context.fallback?_describeFactory, Option.mem_some_iff] at hq
    subst hq
    rw [Context.fallbackClass] at own ⊢
    split at own
    · rename_i shown
      refine ⟨_, mem_artifacts_iff.2 (.base shown), ?_⟩
      rw [if_pos shown]
      exact String.append_assoc ..
    · exact absurd rfl own
  | _ => exact absurd hq (Option.not_mem_none _)

/-! ## References with one package for both layers -/

section Shared

variable (included : options.excludeSession = false) (shared : options.dedicatedSession = false)
include shared

/-- Both layers have the components package of the application. -/
theorem componentsPackageOf_shared (session : Bool) :
    (r.context options layer).layout.componentsPackageOf session =
      (r.context options layer).layout.componentsPackage := by
  have open' : options.separatesSession = false := by simp [Options.separatesSession, shared]
  cases session with
  | false => rfl
  | true => simp [Layout.componentsPackageOf, Layout.sessionComponentsPackage, context,
      Layout.ofVersion, open']

include included

/-- With one package, a class of the name is the class that is looked for. -/
theorem componentsClosed_of_shared (typed : r.WellTyped) :
    (describe options layer r).value.ComponentsClosed := by
  intro a ha name qualified hx
  have emitted := mem_artifacts_iff.1 ha
  obtain ⟨rfl, b, hb, component, className⟩ := emitted.named_component included hx
  obtain ⟨session, -, home⟩ := emitted.referencePackage_eq typed hx
  obtain ⟨other, package⟩ := (mem_artifacts_iff.1 hb).package_of_isComponent component
  refine ⟨b, hb, component, ?_⟩
  rw [Artifact.qualifiedName, package, className, home, componentsPackageOf_shared shared,
    componentsPackageOf_shared shared]

/-- **All classes that are referred to are generated**, where the session layer is generated into
the packages of the application.  A well-typed repository is then described without a fault, and
the fields, components, groups and messages that its classes refer to have classes among them. -/
theorem describe_closed (typed : r.WellTyped) (ledger : Ledger) :
    ∃ d, ((describe options layer r).run ledger).1 = .ok d ∧ d.Closed := by
  refine ⟨_, (typed.describe_clean options layer).run ledger, ?_, ?_, ?_, ?_, ?_⟩
  · intro a ha name id hx
    exact (mem_artifacts_iff.1 ha).named_field included hx
  · exact componentsClosed_of_shared included shared typed
  · intro a ha name hname
    rw [describe_layout]
    exact (mem_artifacts_iff.1 ha).named_message hname
  · intro a ha case hcase
    exact (mem_artifacts_iff.1 ha).named_counter included hcase
  · intro a ha qualified hq own
    exact (mem_artifacts_iff.1 ha).named_fallback hq own

end Shared

theorem describe_closed_sample :
    (Sample.repository "FIX.4.4").WellTyped ∧ ∃ d,
      ((describe { dedicatedSession := false, compatible := rfl } {}
        (Sample.repository "FIX.4.4")).run []).1 = .ok d ∧ d.Closed :=
  ⟨Sample.wellTyped _, describe_closed rfl rfl (Sample.wellTyped _) []⟩

end Repository
end FixBindings
