import FixBindings.Proofs.FactoryCases

/-!
# The accessors of a class

A class of a message or component has accessors for the fields among its members, and two and an
inner class for every group among them.  A component among them has one for its class, followed by
those of its fields and components, and so on behind these.  `Repository.ShowsMembers` says which
accessors this comes to, without a walk: it goes by the components that are reached from the members
through components alone (`Repository.OpensDeep`).

The walk stops where a component repeats, and of the accessors with one kind and name it keeps the
first.  Neither of the two loses anything.  `mem_beside_iff` is about the walk over what stands
beside the classes of components, an instance of `Index.walk_iff_reached`; a component that is met
again has been gone through before, be it the one whose class this is.  That of the accessors of
one kind and name one is left is `Context.mem_slots_unique`.
-/

set_option autoImplicit false

namespace FixBindings

/-- A class name is the name of a declaration in title case. -/
def Document.TitledAs (d : Document) (name : String) : Prop :=
  ∃ s, d = .text s ∧ Naming.titleCase s = name

theorem value_className_eq_iff {d : Document} (h : d.isText) {name : String} :
    (className d).value = name ↔ d.TitledAs name := by
  obtain ⟨s, rfl⟩ := Document.isText_iff.1 h
  constructor
  · intro same
    exact ⟨s, rfl, same⟩
  · rintro ⟨t, same, titled⟩
    obtain rfl := Document.text.inj same
    exact titled

namespace Repository

section Members

variable (r : Repository) (layer : SessionLayer) (framed : Bool) (members : List Member)

/-- The members refer to a declared component that may be entered: the standard header and trailer
only if `framed`. -/
def Opens (key : Key) : Prop := r.Inlines members key ∧ layer.Admits framed key

/-- A component is reached from the members through components that may be entered. -/
def OpensDeep (key : Key) : Prop :=
  ∃ start, r.Opens layer framed members start ∧
    Relation.ReflTransGen (fun a b => r.Opens layer framed (r.membersOf a) b) start key

/-- A declared field is among the members. -/
def HasField (f : Field) : Prop := .field f.id ∈ members ∧ r.field? f.id = some f

/-- A declared group is among the members, and its counter is declared. -/
def HasGroup (g : Group) (counter : Field) : Prop :=
  .group g.id ∈ members ∧ r.group? g.id = some g ∧ r.field? g.counter = some counter

/-- A component that has a class of its own is reached from the members through components. -/
def HasComponent (c : Component) : Prop :=
  r.OpensDeep layer framed members (.component c.id) ∧ r.component? c.id = some c ∧
    layer.isFrame c.id = false

/-- Accessors give access to members: there is one of each kind and name, and the names are those
of the following declarations. -/
structure ShowsMembers (accessors : List Accessor) : Prop where
  apart : (accessors.map Accessor.slot).Nodup
  /-- Fields among the members or those of a component reached from them, and the counters of
  groups among the members. -/
  fields : ∀ name, (.field, name) ∈ accessors.map Accessor.slot ↔ ∃ f, f.name.TitledAs name ∧
    (r.HasField members f ∨
      (∃ key, r.OpensDeep layer framed members key ∧ r.HasField (r.membersOf key) f) ∨
      ∃ g, r.HasGroup members g f)
  /-- Groups among the members, and components reached from them but the header and trailer. -/
  components : ∀ name, (.component, name) ∈ accessors.map Accessor.slot ↔
    (∃ g counter, r.HasGroup members g counter ∧ g.name.TitledAs name) ∨
      ∃ c, r.HasComponent layer framed members c ∧ c.name.TitledAs name
  /-- The counters of groups among the members. -/
  groups : ∀ name, (.group, name) ∈ accessors.map Accessor.slot ↔
    ∃ g counter, r.HasGroup members g counter ∧ counter.name.TitledAs name

end Members

/-! ## The walk -/

section Walk

variable (r : Repository) (options : Options) (layer : SessionLayer) (package : String)

/-- An accessor is that of a field among the members, or that of the class of a component among
them. -/
inductive Stands (members : List Member) : Accessor → Prop
  | field {id : Int} {f : Field} (hm : .field id ∈ members) (hf : r.field? id = some f) :
      Stands members (.field (className f.name).value f.id)
  | component {id : Int} {c : Component} (hm : .component id ∈ members)
      (hc : r.component? id = some c) (own : layer.isFrame c.id = false) :
      Stands members (Context.classAccessor package c.name).value

/-- An accessor is one of the three of a group among the members. -/
def OfGroup (members : List Member) (path : List Key) (x : Accessor) : Prop :=
  ∃ g counter, r.HasGroup members g counter ∧
    (x = (Context.classAccessor package g.name).value ∨
      x = .field (className counter.name).value counter.id ∨
      x = (r.context options layer).unit package g counter (path ++ [.group g.id]))

variable {r options layer package} {members : List Member} {path : List Key} {x : Accessor}

/-- **One step of the walk** over what stands beside the classes of components. -/
theorem mem_beside_step :
    x ∈ ((r.context options layer).accessorsOf package (members.filter Context.isDirect)
        path).value ↔
      r.Stands layer package members x ∨ ∃ key,
        r.Opens layer options.entersFrame members key ∧ key ∉ path ∧
        x ∈ ((r.context options layer).accessorsOf package
          ((r.membersOf key).filter Context.isDirect) (path ++ [key])).value := by
  rw [Context.mem_accessorsOf]
  constructor
  · rintro ⟨m, hm, hx⟩
    obtain ⟨hm, direct⟩ := List.mem_filter.1 hm
    cases hx with
    | field hf => exact Or.inl (.field hm (by simpa using hf))
    | groupClass => exact absurd direct Bool.false_ne_true
    | counter => exact absurd direct Bool.false_ne_true
    | unit => exact absurd direct Bool.false_ne_true
    | componentClass hc own => exact Or.inl (.component hm (by simpa using hc) own)
    | @beside id c _ hc entered fresh hx =>
      rw [context_index, index_component?] at hc
      obtain rfl := (component?_eq_some_iff.1 hc).2
      refine Or.inr ⟨.component c.id, ⟨inlines_component hm hc, entered⟩, fresh, ?_⟩
      rwa [membersOf_component hc]
  · rintro (h | ⟨key, ⟨⟨refers, id, rfl⟩, admitted⟩, fresh, hx⟩)
    · cases h with
      | field hm hf => exact ⟨_, List.mem_filter.2 ⟨hm, rfl⟩, .field (by simpa using hf)⟩
      | component hm hc own =>
        exact ⟨_, List.mem_filter.2 ⟨hm, rfl⟩, .componentClass (by simpa using hc) own⟩
    · obtain ⟨c, hc⟩ := Option.isSome_iff_exists.1 refers.2
      rw [membersOf_component hc] at hx
      obtain rfl := (component?_eq_some_iff.1 hc).2
      refine ⟨_, List.mem_filter.2 ⟨refers.1, rfl⟩, .beside (c := c) ?_ admitted fresh hx⟩
      rw [context_index, index_component?, hc]

/-- A walk begins with nothing on its path, or with the component whose members it goes through. -/
def Starts (r : Repository) (members : List Member) (path : List Key) : Prop :=
  ∀ key ∈ path, r.membersOf key = members ∧ ∃ id, key = .component id

theorem starts_nil : r.Starts members [] := fun _ h => absurd h List.not_mem_nil

theorem starts_component {c : Component} (hc : c ∈ r.distinct.components) :
    r.Starts c.members [.component c.id] := by
  intro key h
  obtain rfl := List.mem_singleton.1 h
  exact ⟨membersOf_component (component?_eq_some_iff.2 ⟨hc, rfl⟩), c.id, rfl⟩

/-- What stands beside the classes of components is that of the members and of the components that
are reached from them. -/
theorem mem_beside_iff (start : r.Starts members path) :
    x ∈ ((r.context options layer).accessorsOf package (members.filter Context.isDirect)
        path).value ↔
      r.Stands layer package members x ∨ ∃ key,
        r.OpensDeep layer options.entersFrame members key ∧
        r.Stands layer package (r.membersOf key) x :=
  r.index.walk_iff_reached r.membersOf (fun ms => r.Stands layer package ms x)
    (r.Opens layer options.entersFrame)
    (fun ms path => x ∈ ((r.context options layer).accessorsOf package
      (ms.filter Context.isDirect) path).value)
    (fun _ _ h => h.1.1.declared) (fun _ _ => mem_beside_step) fun key h _ _ => (start key h).1

/-- **The accessors of a class** are those of the groups among its members and what stands beside
the classes of components. -/
theorem mem_accessorsOf_start (start : r.Starts members path) :
    x ∈ ((r.context options layer).accessorsOf package members path).value ↔
      r.OfGroup options layer package members path x ∨ r.Stands layer package members x ∨ ∃ key,
        r.OpensDeep layer options.entersFrame members key ∧
        r.Stands layer package (r.membersOf key) x := by
  have off (id : Int) : Key.group id ∉ path := fun h => by
    obtain ⟨-, _, same⟩ := start _ h
    exact absurd same nofun
  rw [← mem_beside_iff start, Context.mem_accessorsOf, Context.mem_accessorsOf]
  constructor
  · rintro ⟨m, hm, hx⟩
    cases m with
    | field id => exact Or.inr ⟨_, List.mem_filter.2 ⟨hm, rfl⟩, hx⟩
    | component id => exact Or.inr ⟨_, List.mem_filter.2 ⟨hm, rfl⟩, hx⟩
    | group id =>
      refine Or.inl ?_
      have has {g : Group} {counter : Field}
          (hg : (r.context options layer).index.group? id = some g)
          (hc : (r.context options layer).index.field? g.counter = some counter) :
          r.HasGroup members g counter := by
        rw [context_index, index_group?] at hg
        obtain rfl := (group?_eq_some_iff.1 hg).2
        exact ⟨hm, hg, by simpa using hc⟩
      cases hx with
      | groupClass hg _ hc => exact ⟨_, _, has hg hc, Or.inl rfl⟩
      | counter hg _ hc => exact ⟨_, _, has hg hc, Or.inr (Or.inl rfl)⟩
      | unit hg _ hc => exact ⟨_, _, has hg hc, Or.inr (Or.inr rfl)⟩
  · rintro (⟨g, counter, ⟨hm, hg, hc⟩, hx⟩ | ⟨m, hm, hx⟩)
    · rw [← index_group?] at hg
      rw [← index_field?] at hc
      refine ⟨_, hm, ?_⟩
      rcases hx with rfl | rfl | rfl
      · exact .groupClass hg (off g.id) hc
      · exact .counter hg (off g.id) hc
      · exact .unit hg (off g.id) hc
    · exact ⟨m, (List.mem_filter.1 hm).1, hx⟩

/-! ## Kinds and names -/

/-- What stands for members and for the components reached from them: their fields, and the classes
of the components themselves, each of which some members among these refer to. -/
theorem exists_stands_iff (package : String) {framed : Bool} {slot : Accessor.Kind × String} :
    (∃ x, (r.Stands layer package members x ∨ ∃ key, r.OpensDeep layer framed members key ∧
        r.Stands layer package (r.membersOf key) x) ∧ x.slot = slot) ↔
      (∃ f, (r.HasField members f ∨
          ∃ key, r.OpensDeep layer framed members key ∧ r.HasField (r.membersOf key) f) ∧
        slot = (.field, (className f.name).value)) ∨
      ∃ c, r.HasComponent layer framed members c ∧
        slot = (.component, (className c.name).value) := by
  have opens {ms : List Member} {c : Component} (hm : .component c.id ∈ ms)
      (hc : r.component? c.id = some c) (own : layer.isFrame c.id = false) :
      r.Opens layer framed ms (.component c.id) :=
    ⟨inlines_component hm hc, fun frame => absurd (own.symm.trans frame) (by decide)⟩
  constructor
  · rintro ⟨x, h | ⟨key, ⟨start, hstart, hkey⟩, h⟩, rfl⟩
    · cases h with
      | @field id f hm hf =>
        obtain rfl := (field?_eq_some_iff.1 hf).2
        exact Or.inl ⟨f, Or.inl ⟨hm, hf⟩, rfl⟩
      | @component id c hm hc own =>
        obtain rfl := (component?_eq_some_iff.1 hc).2
        exact Or.inr ⟨c, ⟨⟨_, opens hm hc own, .refl⟩, hc, own⟩, rfl⟩
    · cases h with
      | @field id f hm hf =>
        obtain rfl := (field?_eq_some_iff.1 hf).2
        exact Or.inl ⟨f, Or.inr ⟨key, ⟨start, hstart, hkey⟩, hm, hf⟩, rfl⟩
      | @component id c hm hc own =>
        obtain rfl := (component?_eq_some_iff.1 hc).2
        exact Or.inr ⟨c, ⟨⟨start, hstart, hkey.tail (opens hm hc own)⟩, hc, own⟩, rfl⟩
  · rintro (⟨f, h | ⟨key, deep, h⟩, rfl⟩ | ⟨c, ⟨⟨start, hstart, hc⟩, declared, own⟩, rfl⟩)
    · exact ⟨_, Or.inl (.field h.1 h.2), rfl⟩
    · exact ⟨_, Or.inr ⟨key, deep, .field h.1 h.2⟩, rfl⟩
    · rcases hc.cases_tail with rfl | ⟨key, hkey, hc⟩
      · exact ⟨_, Or.inl (.component hstart.1.1.1 declared own), rfl⟩
      · exact ⟨_, Or.inr ⟨key, ⟨start, hstart, hkey⟩, .component hc.1.1.1 declared own⟩, rfl⟩

/-- **The kinds and names of the accessors of a class.** -/
theorem mem_slots_iff (start : r.Starts members path) {slot : Accessor.Kind × String} :
    slot ∈ (Context.unique ((r.context options layer).accessorsOf package members path).value).map
        Accessor.slot ↔
      (∃ g counter, r.HasGroup members g counter ∧
        (slot = (.component, (className g.name).value) ∨
          slot = (.field, (className counter.name).value) ∨
          slot = (.group, (className counter.name).value))) ∨
      (∃ f, (r.HasField members f ∨ ∃ key, r.OpensDeep layer options.entersFrame members key ∧
          r.HasField (r.membersOf key) f) ∧ slot = (.field, (className f.name).value)) ∨
      ∃ c, r.HasComponent layer options.entersFrame members c ∧
        slot = (.component, (className c.name).value) := by
  rw [Context.mem_slots_unique, List.mem_map, ← exists_stands_iff package]
  simp only [mem_accessorsOf_start start, or_and_right, exists_or]
  refine or_congr_left ⟨?_, ?_⟩
  · rintro ⟨x, ⟨g, counter, has, hx⟩, rfl⟩
    refine ⟨g, counter, has, ?_⟩
    rcases hx with rfl | rfl | rfl
    · exact Or.inl rfl
    · exact Or.inr (Or.inl rfl)
    · exact Or.inr (Or.inr rfl)
  · rintro ⟨g, counter, has, rfl | rfl | rfl⟩
    · exact ⟨_, ⟨g, counter, has, Or.inl rfl⟩, rfl⟩
    · exact ⟨_, ⟨g, counter, has, Or.inr (Or.inl rfl)⟩, rfl⟩
    · exact ⟨_, ⟨g, counter, has, Or.inr (Or.inr rfl)⟩, rfl⟩

/-- **The accessors of a class show its members.** -/
theorem WellTyped.showsMembers (typed : r.WellTyped) (start : r.Starts members path) :
    r.ShowsMembers layer options.entersFrame members
      (Context.unique ((r.context options layer).accessorsOf package members path).value) := by
  have field {id : Int} {f : Field} (h : r.field? id = some f) {name : String} :
      name = (className f.name).value ↔ f.name.TitledAs name := by
    rw [eq_comm, value_className_eq_iff (typed.fields f (List.mem_of_find?_eq_some h)).1]
  have component {c : Component} (h : r.component? c.id = some c) {name : String} :
      name = (className c.name).value ↔ c.name.TitledAs name := by
    rw [eq_comm, value_className_eq_iff (typed.components c (List.mem_of_find?_eq_some h))]
  have group {g : Group} (h : r.group? g.id = some g) {name : String} :
      name = (className g.name).value ↔ g.name.TitledAs name := by
    rw [eq_comm, value_className_eq_iff (typed.groups g (List.mem_of_find?_eq_some h))]
  refine ⟨Context.nodup_slots_unique _, fun name => ?_, fun name => ?_, fun name => ?_⟩
  · rw [mem_slots_iff start]
    constructor
    · rintro (⟨g, counter, has, h | h | h⟩ | ⟨f, has, h⟩ | ⟨c, has, h⟩)
      · cases h
      · exact ⟨counter, (field has.2.2).1 (Prod.mk.inj h).2, Or.inr (Or.inr ⟨g, has⟩)⟩
      · cases h
      · have declared : r.field? f.id = some f := has.elim And.right fun ⟨_, _, h⟩ => h.2
        exact ⟨f, (field declared).1 (Prod.mk.inj h).2, or_assoc.1 (Or.inl has)⟩
      · cases h
    · rintro ⟨f, titled, has⟩
      rcases or_assoc.2 has with has | ⟨g, has⟩
      · have declared : r.field? f.id = some f := has.elim And.right fun ⟨_, _, h⟩ => h.2
        exact Or.inr (Or.inl ⟨f, has, congrArg _ ((field declared).2 titled)⟩)
      · exact Or.inl ⟨g, f, has, Or.inr (Or.inl (congrArg _ ((field has.2.2).2 titled)))⟩
  · rw [mem_slots_iff start]
    constructor
    · rintro (⟨g, counter, has, h | h | h⟩ | ⟨f, has, h⟩ | ⟨c, has, h⟩)
      · exact Or.inl ⟨g, counter, has, (group has.2.1).1 (Prod.mk.inj h).2⟩
      · cases h
      · cases h
      · cases h
      · exact Or.inr ⟨c, has, (component has.2.1).1 (Prod.mk.inj h).2⟩
    · rintro (⟨g, counter, has, titled⟩ | ⟨c, has, titled⟩)
      · exact Or.inl ⟨g, counter, has, Or.inl (congrArg _ ((group has.2.1).2 titled))⟩
      · exact Or.inr (Or.inr ⟨c, has, congrArg _ ((component has.2.1).2 titled)⟩)
  · rw [mem_slots_iff start]
    constructor
    · rintro (⟨g, counter, has, h | h | h⟩ | ⟨f, has, h⟩ | ⟨c, has, h⟩)
      · cases h
      · cases h
      · exact ⟨g, counter, has, (field has.2.2).1 (Prod.mk.inj h).2⟩
      · cases h
      · cases h
    · rintro ⟨g, counter, has, titled⟩
      exact Or.inl ⟨g, counter, has, Or.inr (Or.inr (congrArg _ ((field has.2.2).2 titled)))⟩

end Walk

end Repository

/-! ## The classes -/

/-- A class is the only one of a declaration. -/
structure Description.ClassOfId (d : Description) (kind : ElementKind) (id : Int) (a : Artifact) :
    Prop where
  mem : a ∈ d.artifacts
  declares : a.declaration? = some (kind, id)
  only : ∀ b ∈ d.artifacts, b.declaration? = some (kind, id) → b = a

namespace Repository

variable {r : Repository} {options : Options} {layer : SessionLayer}

/-- The class of a component is the only one with its id. -/
theorem classOf_component {c : Component}
    (hc : c ∈ describedComponents options layer r.distinct.components) :
    (describe options layer r).value.ClassOfId .component c.id
      ((r.context options layer).describeComponent
        (r.context options layer).layout.componentsPackage c).value := by
  refine ⟨mem_artifacts_iff.2 (.component hc), rfl, fun b hb declares => ?_⟩
  have found {c : Component} (hc : c ∈ describedComponents options layer r.distinct.components) :
      r.component? c.id = some c :=
    component?_eq_some_iff.2 ⟨describedComponents_subset _ _ _ hc, rfl⟩
  cases mem_artifacts_iff.1 hb with
  | field => exact absurd declares nofun
  | group => exact absurd declares nofun
  | @component other hother =>
    have same : other.id = c.id := (Prod.mk.inj (Option.some.inj declares)).2
    obtain rfl : other = c := Option.some.inj ((found hother).symm.trans (same ▸ found hc))
    rfl
  | _ => exact absurd declares nofun

/-- **The accessors of the classes of messages and components are complete.**  A well-typed
repository, which may have cycles, is described without a fault.  Every message of a layer that is
generated has one class, and so has every component that is; the accessors of the class are each of
another kind or name, and the names are those of the members of the message or the component. -/
theorem class_accessors_complete (typed : r.WellTyped) (options : Options) (layer : SessionLayer)
    (ledger : Ledger) :
    ∃ d, ((describe options layer r).run ledger).1 = .ok d ∧
      (∀ m ∈ r.distinct.messages, (layer.ownsMessage m → options.emitsSession) →
        ∃ a, d.ClassOf m a ∧ r.ShowsMembers layer options.entersFrame m.members a.accessors) ∧
      ∀ c ∈ describedComponents options layer r.distinct.components,
        ∃ a, d.ClassOfId .component c.id a ∧
          r.ShowsMembers layer options.entersFrame c.members a.accessors := by
  refine ⟨_, (typed.describe_clean options layer).run ledger, fun m hm shown => ?_, fun c hc => ?_⟩
  · exact ⟨_, classOf_message typed hm shown, typed.showsMembers starts_nil⟩
  · have first := describedComponents_subset _ _ _ hc
    exact ⟨_, classOf_component hc, typed.showsMembers (starts_component first)⟩

/-- Two components that refer to each other, each with a field. -/
def circle : Repository where
  version := "FIX.4.4"
  fields := [{ id := 55, name := "Symbol", type := "String" },
    { id := 58, name := "Text", type := "String" }]
  components := [{ id := 1, name := "Instrument", members := [.field 55, .component 2] },
    { id := 2, name := "Remarks", members := [.field 58, .component 1] }]
  messages := [{ name := "Order", msgType := "D", members := [.component 1, .field 58] }]

theorem circle_wellTyped : circle.WellTyped where
  fields f hf := by
    simp only [circle, List.mem_cons, List.not_mem_nil, or_false] at hf
    rcases hf with rfl | rfl <;> exact ⟨rfl, rfl, Or.inl rfl⟩
  codeSets := nofun
  components := by decide
  groups := nofun
  messages := by decide

theorem class_accessors_complete_circle :
    circle.WellTyped ∧ ∃ d,
      ((describe { compatible := rfl } {} circle).run []).1 = .ok d ∧
      (∀ m ∈ circle.distinct.messages,
        (SessionLayer.ownsMessage {} m → Options.emitsSession { compatible := rfl }) →
        ∃ a, d.ClassOf m a ∧ circle.ShowsMembers {} false m.members a.accessors) ∧
      ∀ c ∈ describedComponents { compatible := rfl } {} circle.distinct.components,
        ∃ a, d.ClassOfId .component c.id a ∧
          circle.ShowsMembers {} false c.members a.accessors :=
  ⟨circle_wellTyped, class_accessors_complete circle_wellTyped _ _ []⟩

/-- The class of the first component has an accessor for the component itself, which the second one
refers to. -/
example : ((circle.artifacts { compatible := rfl } {}).filter Artifact.isComponent).map
    (fun a => a.accessors.map Accessor.slot) =
      [[(.field, "Symbol"), (.component, "Remarks"), (.field, "Text"), (.component, "Instrument")],
        [(.field, "Text"), (.component, "Instrument"), (.field, "Symbol"),
          (.component, "Remarks")]] := by
  cbv

end Repository
end FixBindings
