import FixBindings.Proofs.GroupChains

/-!
# Walks that report nothing

A walk along the references of a schema reports a reference that leads nowhere, a node that lies
on its path already, and a group without a field.  In a schema without cycles a node is on the
path only by a detour that the schema rules out: `Repository.Ahead` says that members on a path
are declared and that what they refer to comes after the path (`Repository.Follows`).  Entering a
node keeps it (`Ahead.enter`), and `silent_of_ahead` makes an induction of this, once for all four
walks.

What a walk over accessors reports about its own members is also all that there is to report about
them: `Context.declares_of_silent` and `fills_of_order_ne_nil` read the schema off silence.
-/

set_option autoImplicit false

namespace FixBindings

namespace Repository

/-! ## References and cycles -/

/-- The reference of a member leads to a declaration. -/
def Declares (r : Repository) : Member → Prop
  | .field id => ∃ f ∈ r.fields, f.id = id
  | .group id => ∃ g ∈ r.groups, g.id = id
  | .component id => ∃ c ∈ r.components, c.id = id

/-- Members hold a field or a group, among themselves or, at any depth, in a component among
them. -/
inductive Fills (r : Repository) : List Member → Prop
  | field {members : List Member} {id : Int} (h : .field id ∈ members) : Fills r members
  | group {members : List Member} {id : Int} (h : .group id ∈ members) : Fills r members
  | component {members : List Member} {id : Int} {c : Component} (h : .component id ∈ members)
      (hc : r.component? id = some c) (inner : Fills r c.members) : Fills r members

/-- The members of a node refer to another. -/
def Next (r : Repository) (a b : Key) : Prop := r.Refers (r.membersOf a) b

/-- No group and no component leads back to itself. -/
def Acyclic (r : Repository) : Prop := ∀ key, ¬Relation.TransGen r.Next key key

/-- What the members of groups and components refer to is declared. -/
def Closed (r : Repository) : Prop := ∀ key, ∀ m ∈ r.membersOf key, r.Declares m

/-- What members on a path refer to comes after the path. -/
def Follows (r : Repository) (members : List Member) (path : List Key) : Prop :=
  ∀ a ∈ path, ∀ b, r.Refers members b → Relation.TransGen r.Next a b

/-- Members on a path refer to declarations, and these come after the path. -/
structure Ahead (r : Repository) (members : List Member) (path : List Key) : Prop where
  declared : ∀ m ∈ members, r.Declares m
  after : r.Follows members path

variable {r : Repository} {members sub : List Member} {path : List Key} {key : Key} {id : Int}

theorem declares_field_iff : r.Declares (.field id) ↔ (r.field? id).isSome := by
  simp [Declares, field?, List.find?_isSome]

theorem declares_group_iff : r.Declares (.group id) ↔ (r.group? id).isSome := by
  simp [Declares, group?, List.find?_isSome]

theorem declares_component_iff : r.Declares (.component id) ↔ (r.component? id).isSome := by
  simp [Declares, component?, List.find?_isSome]

theorem refers_group {g : Group} (hm : .group id ∈ members) (hg : r.group? id = some g) :
    r.Refers members (.group g.id) := by
  obtain rfl := (group?_eq_some_iff.1 hg).2
  exact refers_of_group hm hg

theorem refers_component {c : Component} (hm : .component id ∈ members)
    (hc : r.component? id = some c) : r.Refers members (.component c.id) := by
  obtain rfl := (component?_eq_some_iff.1 hc).2
  exact refers_of_component hm hc

theorem members_subset_group {g : Group} (hg : r.group? id = some g) :
    g.members ⊆ r.membersOf (.group g.id) := by
  rw [membersOf_group ((group?_eq_some_iff.1 hg).2 ▸ hg)]
  exact List.Subset.refl _

theorem members_subset_component {c : Component} (hc : r.component? id = some c) :
    c.members ⊆ r.membersOf (.component c.id) := by
  rw [membersOf_component ((component?_eq_some_iff.1 hc).2 ▸ hc)]
  exact List.Subset.refl _

/-- What stands beside the class of a component is among its members. -/
theorem direct_subset_component {c : Component} (hc : r.component? id = some c) :
    c.members.filter Context.isDirect ⊆ r.membersOf (.component c.id) :=
  fun _ hm => members_subset_component hc (List.mem_filter.1 hm).1

/-- What holds of the members of all groups and components holds of the members of all nodes. -/
theorem forall_membersOf {p : Key → Member → Prop}
    (groups : ∀ g ∈ r.groups, ∀ m ∈ g.members, p (.group g.id) m)
    (components : ∀ c ∈ r.components, ∀ m ∈ c.members, p (.component c.id) m) :
    ∀ key, ∀ m ∈ r.membersOf key, p key m := by
  intro key m hm
  cases key with
  | group id =>
    cases hg : r.group? id with
    | none => simp [membersOf, hg] at hm
    | some g =>
      rw [membersOf_group hg] at hm
      obtain rfl := (group?_eq_some_iff.1 hg).2
      exact groups g (List.mem_of_find?_eq_some hg) m hm
  | component id =>
    cases hc : r.component? id with
    | none => simp [membersOf, hc] at hm
    | some c =>
      rw [membersOf_component hc] at hm
      obtain rfl := (component?_eq_some_iff.1 hc).2
      exact components c (List.mem_of_find?_eq_some hc) m hm

/-- A walk begins with nothing on its path. -/
theorem follows_nil : r.Follows members [] := fun _ h => absurd h List.not_mem_nil

/-- What comes after a path is not on it. -/
theorem Follows.fresh (acyclic : r.Acyclic) (follows : r.Follows members path)
    (h : r.Refers members key) : key ∉ path :=
  fun hm => acyclic key (follows key hm key h)

/-- **Entering a node**: its members come after the path and the node. -/
theorem Follows.enter (follows : r.Follows members path) (h : r.Refers members key)
    (hsub : sub ⊆ r.membersOf key) : r.Follows sub (path ++ [key]) := by
  intro a ha b hb
  rcases List.mem_append.1 ha with ha | ha
  · exact (follows a ha key h).tail (hb.mono hsub)
  · obtain rfl := List.mem_singleton.1 ha
    exact .single (hb.mono hsub)

/-- The members of a node come after it. -/
theorem follows_node (hsub : sub ⊆ r.membersOf key) : r.Follows sub [key] := by
  intro a ha b hb
  obtain rfl := List.mem_singleton.1 ha
  exact .single (hb.mono hsub)

theorem ahead_nil (declared : ∀ m ∈ members, r.Declares m) : r.Ahead members [] :=
  ⟨declared, follows_nil⟩

theorem ahead_node (closed : r.Closed) (h : sub ⊆ r.membersOf key) : r.Ahead sub [key] :=
  ⟨fun m hm => closed key m (h hm), follows_node h⟩

theorem Ahead.fresh (acyclic : r.Acyclic) (ahead : r.Ahead members path)
    (h : r.Refers members key) : key ∉ path :=
  ahead.after.fresh acyclic h

theorem Ahead.enter (closed : r.Closed) (ahead : r.Ahead members path)
    (h : r.Refers members key) (hsub : sub ⊆ r.membersOf key) : r.Ahead sub (path ++ [key]) :=
  ⟨fun m hm => closed key m (hsub hm), ahead.after.enter h hsub⟩

/-- **Induction along walks without cycles**: what holds of members whenever they come after the
path, and it holds of the members of every node that they refer to, holds of all members that come
after their path. -/
theorem silent_of_ahead (acyclic : r.Acyclic) (closed : r.Closed)
    {motive : List Member → List Key → Prop}
    (step : ∀ members path, r.Ahead members path →
      (∀ key, r.Refers members key → key ∉ path ∧ ∀ sub ⊆ r.membersOf key,
        r.Ahead sub (path ++ [key]) ∧ motive sub (path ++ [key])) → motive members path)
    (members : List Member) (path : List Key) (ahead : r.Ahead members path) :
    motive members path := by
  induction path using r.index.walk_induction generalizing members with
  | step path ih =>
    refine step members path ahead fun key refers => ?_
    have fresh := ahead.fresh acyclic refers
    refine ⟨fresh, fun sub hsub => ?_⟩
    have inner := ahead.enter closed refers hsub
    exact ⟨inner, ih key refers.declared fresh sub inner⟩

end Repository

/-! ## Ranks -/

/-- The node that a member refers to, declared or not. -/
def Member.target? : Member → Option Key
  | .field _ => none
  | .group id => some (.group id)
  | .component id => some (.component id)

namespace Repository

variable {r : Repository}

theorem Refers.exists_target {members : List Member} {key : Key} (h : r.Refers members key) :
    ∃ m ∈ members, key ∈ m.target? := by
  cases key with
  | group id => exact ⟨.group id, h.1, rfl⟩
  | component id => exact ⟨.component id, h.1, rfl⟩

/-- **Nodes that refer to nodes of lower rank only lead back to no node.** -/
theorem acyclic_of_rank (rank : Key → Nat)
    (groups : ∀ g ∈ r.groups, ∀ m ∈ g.members, ∀ key ∈ m.target?, rank key < rank (.group g.id))
    (components : ∀ c ∈ r.components, ∀ m ∈ c.members, ∀ key ∈ m.target?,
      rank key < rank (.component c.id)) : r.Acyclic := by
  have lower (a b : Key) (h : r.Next a b) : rank b < rank a := by
    obtain ⟨m, hm, target⟩ := Refers.exists_target h
    exact forall_membersOf (p := fun a m => ∀ b ∈ m.target?, rank b < rank a) groups components
      a m hm b target
  intro key cycle
  have descends {a b : Key} (h : Relation.TransGen r.Next a b) : rank b < rank a := by
    induction h with
    | single h => exact lower _ _ h
    | tail _ h ih => exact Nat.lt_trans (lower _ _ h) ih
  exact Nat.lt_irrefl _ (descends cycle)

end Repository

/-! ## Look-ups -/

namespace Index

@[simp] theorem silent_fieldFor {index : Index} {operation : Operation} {id : Int} :
    (index.fieldFor operation id).Silent ↔ (index.field? id).isSome := by
  simp [fieldFor, found]

@[simp] theorem silent_groupFor {index : Index} {operation : Operation} {id : Int} :
    (index.groupFor operation id).Silent ↔ (index.group? id).isSome := by
  simp [groupFor, found]

end Index

/-! ## The four walks -/

section Members

variable {index : Index} {members : List Member} {path : List Key}

theorem Index.silent_fieldIds {layer : SessionLayer} {framed : Bool} :
    (index.fieldIds layer framed members path).Silent ↔
      ∀ m ∈ members, (index.ownFieldIds layer framed path m).Silent := by
  induction members with
  | nil => simp [fieldIds]
  | cons m rest ih => rw [fieldIds_cons]; simp [ih]

theorem Context.silent_repetitionOrder :
    (repetitionOrder index members path).Silent ↔
      ∀ m ∈ members, (ownOrder index path m).Silent := by
  induction members with
  | nil => simp [repetitionOrder]
  | cons m rest ih => rw [repetitionOrder_cons]; simp [ih]

theorem Context.silent_accessorsOf {e : Context} {package : String} :
    (e.accessorsOf package members path).Silent ↔
      ∀ m ∈ members, (e.ownAccessors package path m).Silent := by
  induction members with
  | nil => simp [accessorsOf]
  | cons m rest ih => rw [accessorsOf_cons]; simp [ih]

theorem Context.silent_casesWithin {parent : String} {cases : List CounterCase}
    (h : ∀ m ∈ members, ∀ cases, (ownCases index parent path cases m).Silent) :
    (casesWithin index parent members path cases).Silent := by
  induction members generalizing cases with
  | nil => simp [casesWithin]
  | cons m rest ih =>
    rw [casesWithin_cons, Traced.silent_bind]
    exact ⟨h m List.mem_cons_self cases, ih fun m hm => h m (List.mem_cons_of_mem _ hm)⟩

end Members

namespace Repository

variable {r : Repository} {options : Options} {layer : SessionLayer} {members : List Member}
  {path : List Key}

section Ahead

variable (acyclic : r.Acyclic) (closed : r.Closed)
include acyclic closed

theorem Ahead.fieldIds (layer : SessionLayer) (framed : Bool) (ahead : r.Ahead members path) :
    (r.index.fieldIds layer framed members path).Silent := by
  refine silent_of_ahead acyclic closed
    (motive := fun members path => (r.index.fieldIds layer framed members path).Silent)
    (fun members path ahead enter => ?_) _ _ ahead
  refine Index.silent_fieldIds.2 fun m hm => ?_
  have declared := ahead.declared m hm
  cases m with
  | field id => simp [Index.ownFieldIds]
  | group id =>
    obtain ⟨g, hg⟩ := Option.isSome_iff_exists.1 (declares_group_iff.1 declared)
    obtain ⟨fresh, inner⟩ := enter _ (refers_group hm hg)
    simp [Index.ownFieldIds, hg, fresh, (inner _ (members_subset_group hg)).2]
  | component id =>
    obtain ⟨c, hc⟩ := Option.isSome_iff_exists.1 (declares_component_iff.1 declared)
    obtain ⟨fresh, inner⟩ := enter _ (refers_component hm hc)
    have silent := (inner _ (members_subset_component hc)).2
    by_cases pruned : layer.isFrame c.id = true ∧ framed = false
    · simp [Index.ownFieldIds, hc, pruned]
    · simp [Index.ownFieldIds, hc, pruned, fresh, silent]

theorem Ahead.repetitionOrder (ahead : r.Ahead members path) :
    (Context.repetitionOrder r.index members path).Silent := by
  refine silent_of_ahead acyclic closed
    (motive := fun members path => (Context.repetitionOrder r.index members path).Silent)
    (fun members path ahead enter => ?_) _ _ ahead
  refine Context.silent_repetitionOrder.2 fun m hm => ?_
  have declared := ahead.declared m hm
  cases m with
  | field id => simp [Context.ownOrder]
  | group id => simp [Context.ownOrder, declares_group_iff.1 declared]
  | component id =>
    obtain ⟨c, hc⟩ := Option.isSome_iff_exists.1 (declares_component_iff.1 declared)
    obtain ⟨fresh, inner⟩ := enter _ (refers_component hm hc)
    simp [Context.ownOrder, hc, fresh, (inner _ (members_subset_component hc)).2]

/-- Members that hold a field or a group give an order. -/
theorem Ahead.order_ne_nil (ahead : r.Ahead members path) (fills : r.Fills members) :
    (Context.repetitionOrder r.index members path).value ≠ [] := by
  have listed {members : List Member} {path : List Key} {id : Int} {m : Member}
      (hm : m ∈ members) (h : id ∈ (Context.ownOrder r.index path m).value) :
      (Context.repetitionOrder r.index members path).value ≠ [] := by
    rw [Context.value_repetitionOrder]
    exact List.ne_nil_of_mem (List.mem_flatMap.2 ⟨m, hm, h⟩)
  induction fills generalizing path with
  | @field members id hm =>
    have own : id ∈ (Context.ownOrder r.index path (.field id)).value := by
      simp [Context.ownOrder]
    exact listed hm own
  | @group members id hm =>
    obtain ⟨g, hg⟩ := Option.isSome_iff_exists.1 (declares_group_iff.1 (ahead.declared _ hm))
    have own : g.counter ∈ (Context.ownOrder r.index path (.group id)).value := by
      simp [Context.ownOrder, hg]
    exact listed hm own
  | @component members id c hm hc _ ih =>
    have refers := refers_component hm hc
    have inner := ih (ahead.enter closed refers (members_subset_component hc))
    obtain ⟨n, hn⟩ := List.exists_mem_of_ne_nil _ inner
    exact listed hm (by simpa [Context.ownOrder, hc, ahead.fresh acyclic refers] using hn)

theorem Ahead.casesWithin (typed : r.WellTyped)
    (counters : ∀ g ∈ r.groups, r.Declares (.field g.counter)) (ahead : r.Ahead members path)
    (parent : String) (cases : List CounterCase) :
    (Context.casesWithin r.index parent members path cases).Silent := by
  refine silent_of_ahead acyclic closed (motive := fun members path => ∀ parent cases,
      (Context.casesWithin r.index parent members path cases).Silent)
    (fun members path ahead enter parent cases => ?_) _ _ ahead parent cases
  refine Context.silent_casesWithin fun m hm cases => ?_
  have declared := ahead.declared m hm
  cases m with
  | field id => simp [Context.ownCases]
  | component id => simp [Context.ownCases]
  | group id =>
    obtain ⟨g, hg⟩ := Option.isSome_iff_exists.1 (declares_group_iff.1 declared)
    obtain ⟨fresh, inner⟩ := enter _ (refers_group hm hg)
    obtain ⟨f, hf⟩ := Option.isSome_iff_exists.1
      (declares_field_iff.1 (counters g (List.mem_of_find?_eq_some hg)))
    have name := className_silent (typed.fields f (List.mem_of_find?_eq_some hf)).1
    simp [Context.ownCases, hg, fresh, hf, name, (inner _ (members_subset_group hg)).2]

theorem Ahead.accessorsOf (typed : r.WellTyped)
    (counters : ∀ g ∈ r.groups, r.Declares (.field g.counter))
    (filled : ∀ g ∈ r.groups, r.Fills g.members) (ahead : r.Ahead members path)
    (options : Options) (layer : SessionLayer) (package : String) :
    ((r.context options layer).accessorsOf package members path).Silent := by
  refine silent_of_ahead acyclic closed
    (motive := fun members path =>
      ((r.context options layer).accessorsOf package members path).Silent)
    (fun members path ahead enter => ?_) _ _ ahead
  refine Context.silent_accessorsOf.2 fun m hm => ?_
  have declared := ahead.declared m hm
  cases m with
  | field id =>
    obtain ⟨f, hf⟩ := Option.isSome_iff_exists.1 (declares_field_iff.1 declared)
    have name := className_silent (typed.fields f (List.mem_of_find?_eq_some hf)).1
    simp [Context.ownAccessors, hf, name]
  | group id =>
    obtain ⟨g, hg⟩ := Option.isSome_iff_exists.1 (declares_group_iff.1 declared)
    have declared := List.mem_of_find?_eq_some hg
    obtain ⟨fresh, inner⟩ := enter _ (refers_group hm hg)
    obtain ⟨ahead, silent⟩ := inner _ (members_subset_group hg)
    obtain ⟨f, hf⟩ := Option.isSome_iff_exists.1 (declares_field_iff.1 (counters g declared))
    have name := className_silent (typed.fields f (List.mem_of_find?_eq_some hf)).1
    have component := Context.classAccessor_silent package (typed.groups g declared)
    have order := ahead.repetitionOrder acyclic closed
    have nonempty := ahead.order_ne_nil acyclic closed (filled g declared)
    simp [Context.ownAccessors, hg, fresh, hf, name, component, order, nonempty, silent]
  | component id =>
    obtain ⟨c, hc⟩ := Option.isSome_iff_exists.1 (declares_component_iff.1 declared)
    have declared := List.mem_of_find?_eq_some hc
    obtain ⟨fresh, inner⟩ := enter _ (refers_component hm hc)
    have silent := (inner _ (direct_subset_component hc)).2
    have component := Context.classAccessor_silent package (typed.components c declared)
    cases frame : layer.isFrame c.id with
    | false => simp [Context.ownAccessors, hc, frame, fresh, component, silent]
    | true =>
      cases frames : options.entersFrame with
      | false => simp [Context.ownAccessors, hc, frame, frames]
      | true => simp [Context.ownAccessors, hc, frame, frames, fresh, silent]

end Ahead

/-! ## What silence says -/

/-- A silent walk over accessors finds what its members refer to. -/
theorem declares_of_silent {package : String}
    (silent : ((r.context options layer).accessorsOf package members path).Silent) :
    ∀ m ∈ members, r.Declares m := by
  intro m hm
  have own := Context.silent_accessorsOf.1 silent m hm
  cases m with
  | field id =>
    rw [declares_field_iff]
    rw [Context.ownAccessors, Traced.silent_bind, Index.silent_fieldFor, context_index,
      index_field?] at own
    exact own.1
  | group id =>
    rw [declares_group_iff, Option.isSome_iff_ne_none]
    intro missing
    simp [Context.ownAccessors, missing] at own
  | component id =>
    rw [declares_component_iff, Option.isSome_iff_ne_none]
    intro missing
    simp [Context.ownAccessors, missing] at own

/-- Members that give an order hold a field or a group. -/
theorem fills_of_order_ne_nil
    (h : (Context.repetitionOrder r.index members path).value ≠ []) : r.Fills members := by
  induction path using r.index.walk_induction generalizing members with
  | step path ih =>
    obtain ⟨id, hid⟩ := List.exists_mem_of_ne_nil _ h
    rw [Context.value_repetitionOrder, List.mem_flatMap] at hid
    obtain ⟨m, hm, hid⟩ := hid
    cases m with
    | field id => exact .field hm
    | group id => exact .group hm
    | component cid =>
      obtain ⟨c, hc, fresh, hid⟩ := mem_ownOrder_component.1 hid
      have key := (refers_component hm hc).declared
      rw [(component?_eq_some_iff.1 hc).2] at key
      exact .component hm hc (ih _ key fresh (List.ne_nil_of_mem hid))

end Repository
end FixBindings
