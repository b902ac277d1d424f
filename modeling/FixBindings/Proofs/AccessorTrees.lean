import FixBindings.Proofs.RepetitionOrders

/-!
# Trees of accessors

`Context.accessorsOf` turns members into accessors, and a group among them into an inner class
with accessors of its own, to any depth.  This file says once what one member contributes on a
path: `Context.Contributes` has a constructor for each way in which an accessor comes about, and
`mem_accessorsOf` says that these are all.  What holds of the accessors at every depth is then an
induction along the walk with one case for each constructor.  The first such fact is
`Describes.of_within`: an accessor, however deep, is the accessor of a declaration.
-/

set_option autoImplicit false

namespace FixBindings

/-- The names of the declarations that an index finds are texts. -/
structure Index.Named (index : Index) : Prop where
  field : ∀ {id f}, index.field? id = some f → f.name.isText
  group : ∀ {id g}, index.group? id = some g → g.name.isText
  component : ∀ {id c}, index.component? id = some c → c.name.isText

theorem Repository.WellTyped.named {r : Repository} (typed : r.WellTyped) : r.index.Named where
  field h := (typed.fields _ (List.mem_of_find?_eq_some (index_field? r _ ▸ h))).1
  group h := typed.groups _ (List.mem_of_find?_eq_some (index_group? r _ ▸ h))
  component h := typed.components _ (List.mem_of_find?_eq_some (index_component? r _ ▸ h))

/-! ## Slots -/

/-- The kinds of accessors. -/
inductive Accessor.Kind where
  | field
  | component
  | group
deriving Repr, DecidableEq

/-- The kind of an accessor. -/
def Accessor.kind : Accessor → Kind
  | .field .. => .field
  | .component .. => .component
  | .group .. => .group

/-- Whether an accessor is an inner class. -/
def Accessor.isUnit : Accessor → Bool
  | .group .. => true
  | _ => false

/-- What a class has one accessor of at most: the kind and name. -/
def Accessor.slot (a : Accessor) : Kind × String := (a.kind, a.name)

theorem Accessor.sameSlot_iff (a b : Accessor) : a.sameSlot b ↔ a.slot = b.slot := by
  cases a <;> cases b <;> simp [sameSlot, slot, kind, name]

/-! ## Depth -/

/-- An accessor lies among accessors or, at any depth, in an inner class among them. -/
inductive Accessor.Within (x : Accessor) : List Accessor → Prop
  | here {as : List Accessor} (h : x ∈ as) : Within x as
  | inside {as inner : List Accessor} {name : String} {counter delimiter : Int}
      {order : List Int} (h : .group name counter delimiter order inner ∈ as)
      (hx : Within x inner) : Within x as

theorem Accessor.not_within_nil {x : Accessor} : ¬x.Within [] := by
  intro h
  cases h with
  | here h => exact absurd h List.not_mem_nil
  | inside h => exact absurd h List.not_mem_nil

/-- What lies in an accessor lies wherever that accessor does. -/
theorem Accessor.Within.trans {x y : Accessor} {as : List Accessor} (hx : x.Within [y])
    (hy : y.Within as) : x.Within as := by
  induction hy with
  | here hy =>
    cases hx with
    | here h => exact .here (List.mem_singleton.1 h ▸ hy)
    | inside h hx => exact .inside (List.mem_singleton.1 h ▸ hy) hx
  | inside h _ ih => exact .inside h ih

/-- What lies among accessors lies in one of them. -/
theorem Accessor.Within.exists_mem {x : Accessor} {as : List Accessor} (h : x.Within as) :
    ∃ y ∈ as, x.Within [y] := by
  cases h with
  | here h => exact ⟨x, h, .here (List.mem_singleton_self x)⟩
  | inside h hx => exact ⟨_, h, .inside (List.mem_singleton_self _) hx⟩

theorem Accessor.Within.mono {x : Accessor} {as bs : List Accessor} (h : x.Within as)
    (sub : as ⊆ bs) : x.Within bs := by
  obtain ⟨y, hy, hx⟩ := h.exists_mem
  exact hx.trans (.here (sub hy))

/-- Nothing but itself lies in an accessor that is no inner class. -/
theorem Accessor.Within.eq_of_singleton {x y : Accessor} (h : x.Within [y])
    (plain : y.isUnit = false) : x = y := by
  cases h with
  | here h => exact List.mem_singleton.1 h
  | inside h =>
    rw [← List.mem_singleton.1 h] at plain
    exact absurd plain.symm Bool.false_ne_true

/-- An inner class that lies in an accessor alone lies in one that is an inner class. -/
theorem Accessor.Within.isUnit_of_singleton {x y : Accessor} (h : x.Within [y]) (unit : x.isUnit) :
    y.isUnit := by
  by_contra plain
  rw [← h.eq_of_singleton (Bool.eq_false_iff.2 plain)] at plain
  exact plain unit

namespace Context

theorem unique_subset (as : List Accessor) : unique as ⊆ as := fun _ h => mem_of_mem_firstOf h

theorem nodup_slots_unique (as : List Accessor) : ((unique as).map Accessor.slot).Nodup :=
  nodup_map_firstOf fun a _ b _ => (a.sameSlot_iff b).2

/-- **Nothing is lost but repeated slots.** -/
theorem mem_slots_unique {as : List Accessor} {slot : Accessor.Kind × String} :
    slot ∈ (unique as).map Accessor.slot ↔ slot ∈ as.map Accessor.slot :=
  mem_map_firstOf Accessor.sameSlot_iff

/-! ## One step of the walk -/

section Walk

variable (e : Context) (package : String)

/-- The accessors that one member contributes. -/
def ownAccessors (path : List Key) : Member → Traced (List Accessor)
  | .field id => do
    let field? ← e.index.fieldFor .accessors id
    match field? with
    | none => return []
    | some f => do
      let name ← className f.name
      return [.field name f.id]
  | .group id =>
    match e.index.group? id with
    | none => do
      Traced.report (.missing .accessors .group id)
      return []
    | some g =>
      if Key.group g.id ∈ path then do
        Traced.report (.cyclic .accessors .group g.id)
        return []
      else do
        let counter? ← e.index.fieldFor .accessors g.counter
        match counter? with
        | none => return []
        | some counter => do
          let component ← classAccessor package g.name
          let name ← className counter.name
          let order ← repetitionOrder e.index g.members (path ++ [.group g.id])
          Traced.reportIf order.isEmpty (.emptyGroup g.id)
          let inner ← e.accessorsOf package g.members (path ++ [.group g.id])
          return [component, .field name counter.id,
            .repetition name counter.id order (unique inner)]
  | .component id =>
    match e.index.component? id with
    | none => do
      Traced.report (.missing .accessors .component id)
      return []
    | some c =>
      if e.layer.isFrame c.id && !e.layout.options.entersFrame then
        return []
      else do
        let component ←
          if e.layer.isFrame c.id then pure []
          else do
            let component ← classAccessor package c.name
            pure [component]
        let inner ←
          if Key.component c.id ∈ path then do
            Traced.report (.cyclic .accessors .component c.id)
            pure []
          else
            e.accessorsOf package (c.members.filter isDirect) (path ++ [.component c.id])
        return component ++ inner

/-- **The walk is a union over the members.** -/
theorem accessorsOf_cons (m : Member) (rest : List Member) (path : List Key) :
    e.accessorsOf package (m :: rest) path = do
      let own ← e.ownAccessors package path m
      let others ← e.accessorsOf package rest path
      return own ++ others := by
  cases m with
  | field id =>
    rw [accessorsOf, ownAccessors, bind_assoc]
    congr 1
    funext field?
    cases field? with
    | none => simp
    | some f => simp
  | group id =>
    rw [accessorsOf, ownAccessors]
    split
    · rename_i h
      simp [h]
    · rename_i g h
      rw [h]
      by_cases visited : Key.group g.id ∈ path
      · simp [visited]
      · simp only [visited, dite_false, if_false, bind_assoc]
        congr 1
        funext counter?
        cases counter? with
        | none => simp
        | some counter => simp
  | component id =>
    rw [accessorsOf, ownAccessors]
    split
    · rename_i h
      simp [h]
    · rename_i c h
      rw [h]
      cases frame : e.layer.isFrame c.id with
      | false =>
        by_cases visited : Key.component c.id ∈ path
        · simp [visited, frame]
        · simp [visited, frame]
      | true =>
        cases e.layout.options.entersFrame with
        | false => simp [frame]
        | true =>
          by_cases visited : Key.component c.id ∈ path
          · simp [visited, frame]
          · simp [visited, frame]

variable {e package} {path : List Key} {members : List Member}

/-- The accessor of an inner class for the repetitions of a group. -/
def unit (e : Context) (package : String) (g : Group) (counter : Field) (path : List Key) :
    Accessor :=
  .repetition (className counter.name).value counter.id
    (repetitionOrder e.index g.members path).value
    (unique (e.accessorsOf package g.members path).value)

/-- What lies in the inner class of a group is the class or lies among the accessors of the members
of the group. -/
theorem within_unit {g : Group} {counter : Field} {x : Accessor}
    (h : x.Within [e.unit package g counter path]) :
    x = e.unit package g counter path ∨ x.Within (e.accessorsOf package g.members path).value := by
  cases h with
  | here h => exact Or.inl (List.mem_singleton.1 h)
  | inside h hx =>
    obtain ⟨-, -, -, -, rfl⟩ := Accessor.group.inj (List.mem_singleton.1 h)
    exact Or.inr (hx.mono (unique_subset _))

theorem value_repetitionOf (g : Group) (counter : Field) :
    (e.repetitionOf package g counter path).value = e.unit package g counter path := rfl

/-- A member contributes an accessor where a walk meets it on a path.  A group has an accessor for
its class, one for its counter and an inner class; a component has one for its class, unless it is
the standard header or trailer, and those of the members that stand beside its class. -/
inductive Contributes (e : Context) (package : String) (path : List Key) :
    Member → Accessor → Prop
  | field {id : Int} {f : Field} (hf : e.index.field? id = some f) :
      Contributes e package path (.field id) (.field (className f.name).value f.id)
  | groupClass {id : Int} {g : Group} {counter : Field} (hg : e.index.group? id = some g)
      (fresh : Key.group g.id ∉ path) (hc : e.index.field? g.counter = some counter) :
      Contributes e package path (.group id) (classAccessor package g.name).value
  | counter {id : Int} {g : Group} {counter : Field} (hg : e.index.group? id = some g)
      (fresh : Key.group g.id ∉ path) (hc : e.index.field? g.counter = some counter) :
      Contributes e package path (.group id) (.field (className counter.name).value counter.id)
  | unit {id : Int} {g : Group} {counter : Field} (hg : e.index.group? id = some g)
      (fresh : Key.group g.id ∉ path) (hc : e.index.field? g.counter = some counter) :
      Contributes e package path (.group id)
        (e.unit package g counter (path ++ [.group g.id]))
  | componentClass {id : Int} {c : Component} (hc : e.index.component? id = some c)
      (own : e.layer.isFrame c.id = false) :
      Contributes e package path (.component id) (classAccessor package c.name).value
  | beside {id : Int} {c : Component} {x : Accessor} (hc : e.index.component? id = some c)
      (entered : e.layer.isFrame c.id → e.layout.options.entersFrame)
      (fresh : Key.component c.id ∉ path)
      (hx : x ∈ (e.accessorsOf package (c.members.filter isDirect)
        (path ++ [.component c.id])).value) :
      Contributes e package path (.component id) x

theorem mem_ownAccessors_component {id : Int} {c : Component} {x : Accessor}
    (hc : e.index.component? id = some c) :
    x ∈ (e.ownAccessors package path (.component id)).value ↔
      (e.layer.isFrame c.id → e.layout.options.entersFrame) ∧
        (e.layer.isFrame c.id = false ∧ x = (classAccessor package c.name).value ∨
          Key.component c.id ∉ path ∧ x ∈ (e.accessorsOf package (c.members.filter isDirect)
            (path ++ [.component c.id])).value) := by
  rw [ownAccessors, hc]
  cases frame : e.layer.isFrame c.id with
  | false =>
    by_cases visited : Key.component c.id ∈ path
    · simp [visited, frame]
    · simp [visited, frame]
  | true =>
    cases enters : e.layout.options.entersFrame with
    | false => simp [frame]
    | true =>
      by_cases visited : Key.component c.id ∈ path
      · simp [visited, frame]
      · simp [visited, frame]

theorem mem_ownAccessors {m : Member} {x : Accessor} :
    x ∈ (e.ownAccessors package path m).value ↔ e.Contributes package path m x := by
  constructor
  · intro h
    cases m with
    | field id =>
      cases hf : e.index.field? id with
      | none => simp [ownAccessors, hf] at h
      | some f =>
        obtain rfl : x = _ := by simpa [ownAccessors, hf] using h
        exact .field hf
    | group id =>
      cases hg : e.index.group? id with
      | none => simp [ownAccessors, hg] at h
      | some g =>
        by_cases visited : Key.group g.id ∈ path
        · simp [ownAccessors, hg, visited] at h
        · cases hc : e.index.field? g.counter with
          | none => simp [ownAccessors, hg, visited, hc] at h
          | some counter =>
            simp only [ownAccessors, hg, visited, if_false, Traced.value_bind,
              Index.value_fieldFor, hc, Traced.value_pure, List.mem_cons, List.not_mem_nil,
              or_false] at h
            rcases h with rfl | rfl | rfl
            · exact .groupClass hg visited hc
            · exact .counter hg visited hc
            · exact .unit hg visited hc
    | component id =>
      cases hc : e.index.component? id with
      | none => simp [ownAccessors, hc] at h
      | some c =>
        obtain ⟨entered, ⟨own, rfl⟩ | ⟨fresh, hx⟩⟩ := (mem_ownAccessors_component hc).1 h
        · exact .componentClass hc own
        · exact .beside hc entered fresh hx
  · intro h
    cases h with
    | field hf => simp [ownAccessors, hf]
    | groupClass hg fresh hc => simp [ownAccessors, hg, fresh, hc]
    | counter hg fresh hc => simp [ownAccessors, hg, fresh, hc]
    | unit hg fresh hc => simp [ownAccessors, hg, fresh, hc, Context.unit]
    | componentClass hc own =>
      exact (mem_ownAccessors_component hc).2 ⟨by simp [own], Or.inl ⟨own, rfl⟩⟩
    | beside hc entered fresh hx =>
      exact (mem_ownAccessors_component hc).2 ⟨entered, Or.inr ⟨fresh, hx⟩⟩

theorem value_accessorsOf (members : List Member) (path : List Key) :
    (e.accessorsOf package members path).value =
      members.flatMap fun m => (e.ownAccessors package path m).value := by
  induction members with
  | nil => simp [accessorsOf]
  | cons m rest ih => rw [accessorsOf_cons]; simp [ih]

/-- **The accessors of members are those that some member contributes.** -/
theorem mem_accessorsOf {x : Accessor} :
    x ∈ (e.accessorsOf package members path).value ↔
      ∃ m ∈ members, e.Contributes package path m x := by
  simp only [value_accessorsOf, List.mem_flatMap, mem_ownAccessors]

/-! ## What an accessor describes -/

/-- An accessor is that of a declaration, with classes of groups and components in `package`. -/
inductive Describes (e : Context) (package : String) : Accessor → Prop
  | field {id : Int} {f : Field} (hf : e.index.field? id = some f) :
      Describes e package (.field (className f.name).value f.id)
  | groupClass {id : Int} {g : Group} {counter : Field} (hg : e.index.group? id = some g)
      (hc : e.index.field? g.counter = some counter) :
      Describes e package (classAccessor package g.name).value
  | componentClass {id : Int} {c : Component} (hc : e.index.component? id = some c)
      (own : e.layer.isFrame c.id = false) :
      Describes e package (classAccessor package c.name).value
  | unit {id : Int} {g : Group} {counter : Field} {path : List Key}
      (hg : e.index.group? id = some g) (hc : e.index.field? g.counter = some counter) :
      Describes e package (e.unit package g counter path)

theorem describes_of_mem {x : Accessor} (h : x ∈ (e.accessorsOf package members path).value) :
    e.Describes package x := by
  induction path using e.index.walk_induction generalizing members with
  | step path ih =>
    obtain ⟨m, -, hx⟩ := mem_accessorsOf.1 h
    cases hx with
    | field hf => exact .field hf
    | groupClass hg _ hc => exact .groupClass hg hc
    | counter _ _ hc => exact .field hc
    | unit hg _ hc => exact .unit hg hc
    | componentClass hc own => exact .componentClass hc own
    | beside hc _ fresh hx => exact ih _ (Index.component_mem_keys hc) fresh hx

/-- **What describes declarations does so at every depth**, for an inner class holds accessors of
members again. -/
theorem Describes.of_within {x : Accessor} {as : List Accessor}
    (h : ∀ y ∈ as, e.Describes package y) (hx : x.Within as) : e.Describes package x := by
  induction hx with
  | here hx => exact h _ hx
  | inside hunit _ ih =>
    refine ih fun y hy => ?_
    cases h _ hunit with
    | unit hg hc => exact describes_of_mem (unique_subset _ hy)

/-! ## Names -/

theorem classAccessor_silent (package : String) {name : Document} (h : name.isText) :
    (classAccessor package name).Silent := by
  simp [classAccessor, className_silent h]

theorem classAccessor_clean (package : String) {name : Document} (h : name.isText) :
    (classAccessor package name).Clean :=
  (classAccessor_silent package h).clean

/-- Accessors are made without a fault where all names are texts. -/
theorem accessorsOf_clean (named : e.index.Named) :
    (e.accessorsOf package members path).Clean := by
  induction path using e.index.walk_induction generalizing members with
  | step path ih =>
    have own (m : Member) : (e.ownAccessors package path m).Clean := by
      cases m with
      | field id =>
        cases hf : e.index.field? id with
        | none => simp [ownAccessors, hf]
        | some f => simp [ownAccessors, hf, className_clean (named.field hf)]
      | group id =>
        cases hg : e.index.group? id with
        | none => simp [ownAccessors, hg]
        | some g =>
          by_cases visited : Key.group g.id ∈ path
          · simp [ownAccessors, hg, visited]
          · cases hc : e.index.field? g.counter with
            | none => simp [ownAccessors, hg, visited, hc]
            | some counter =>
              have inner := @ih _ (Index.group_mem_keys hg) visited g.members
              simp [ownAccessors, hg, visited, hc, classAccessor_clean package (named.group hg),
                className_clean (named.field hc), repetitionOrder_clean, inner]
      | component id =>
        cases hc : e.index.component? id with
        | none => simp [ownAccessors, hc]
        | some c =>
          have component := classAccessor_clean package (named.component hc)
          rw [ownAccessors, hc]
          by_cases visited : Key.component c.id ∈ path
          · cases frame : e.layer.isFrame c.id with
            | false => simp [visited, frame, component]
            | true => cases e.layout.options.entersFrame <;> simp [visited, frame]
          · have inner := @ih _ (Index.component_mem_keys hc) visited (c.members.filter isDirect)
            cases frame : e.layer.isFrame c.id with
            | false => simp [visited, frame, component, inner]
            | true => cases e.layout.options.entersFrame <;> simp [visited, frame, inner]
    induction members with
    | nil => simp [accessorsOf]
    | cons m rest ihm =>
      rw [accessorsOf_cons]
      simp [own m, ihm]

theorem repetitionOf_clean (named : e.index.Named) {g : Group} {counter : Field}
    (hc : counter.name.isText) : (e.repetitionOf package g counter path).Clean := by
  simp [repetitionOf, repetitionOrder_clean, accessorsOf_clean named, className_clean hc]

end Walk

end Context
end FixBindings
