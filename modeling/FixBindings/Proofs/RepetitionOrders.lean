import FixBindings.Artifact.Accessors
import FixBindings.Proofs.UsedFields

/-!
# The order of a repetition

`Context.repetitionOrder` lists the fields of one repetition of a group in the order of
declaration.  A component stands for its members, while a group within the repetition stands for
its counter alone, so this walk enters components and never groups.  It is opened once, in
`repetitionOrder_cons`.  `mem_repetitionOrder_iff` reads off `Index.walk_iff_reached` which fields
it lists: those of the members and of every component that the members inline, however deep.

The walk asks nobody whether a component is the standard header or trailer.  It is the only walk
that does not.
-/

set_option autoImplicit false

namespace FixBindings

namespace Index

@[simp] theorem value_fieldFor (index : Index) (operation : Operation) (id : Int) :
    (index.fieldFor operation id).value = index.field? id := rfl

@[simp] theorem value_groupFor (index : Index) (operation : Operation) (id : Int) :
    (index.groupFor operation id).value = index.group? id := rfl

@[simp] theorem fieldFor_clean (index : Index) (operation : Operation) (id : Int) :
    (index.fieldFor operation id).Clean := by
  simp [fieldFor, found]

@[simp] theorem groupFor_clean (index : Index) (operation : Operation) (id : Int) :
    (index.groupFor operation id).Clean := by
  simp [groupFor, found]

end Index

namespace Context

section Walk

variable (index : Index)

/-- The ids that one member contributes to the order of a repetition. -/
def ownOrder (path : List Key) : Member → Traced (List Int)
  | .field id => return [id]
  | .group id => do
    let group? ← index.groupFor .order id
    return (group?.map Group.counter).toList
  | .component id =>
    match index.component? id with
    | none => do
      Traced.report (.missing .order .component id)
      return []
    | some c =>
      if Key.component c.id ∈ path then do
        Traced.report (.cyclic .order .component c.id)
        return []
      else
        repetitionOrder index c.members (path ++ [.component c.id])

/-- **The order of a repetition goes member by member.** -/
theorem repetitionOrder_cons (m : Member) (rest : List Member) (path : List Key) :
    repetitionOrder index (m :: rest) path = do
      let own ← ownOrder index path m
      let others ← repetitionOrder index rest path
      return own ++ others := by
  cases m with
  | field id => simp [repetitionOrder, ownOrder]
  | group id => simp [repetitionOrder, ownOrder]
  | component id =>
    rw [repetitionOrder, ownOrder]
    split
    · rename_i h
      simp [h]
    · rename_i c h
      rw [h]
      by_cases visited : Key.component c.id ∈ path
      · simp [visited]
      · simp [visited]

theorem value_repetitionOrder (members : List Member) (path : List Key) :
    (repetitionOrder index members path).value =
      members.flatMap fun m => (ownOrder index path m).value := by
  induction members with
  | nil => simp [repetitionOrder]
  | cons m rest ih => rw [repetitionOrder_cons]; simp [ih]

/-- The walk meets no fault, for it looks at ids only. -/
theorem repetitionOrder_clean (members : List Member) (path : List Key) :
    (repetitionOrder index members path).Clean := by
  induction path using index.walk_induction generalizing members with
  | step path ih =>
    have own (m : Member) : (ownOrder index path m).Clean := by
      cases m with
      | field id => simp [ownOrder]
      | group id => simp [ownOrder]
      | component id =>
        rw [ownOrder]
        split
        · simp
        · rename_i c hc
          split
          · simp
          · rename_i fresh
            exact ih _ (Index.component_mem_keys hc) fresh c.members
    induction members with
    | nil => simp [repetitionOrder]
    | cons m rest ihm =>
      rw [repetitionOrder_cons]
      simp [own m, ihm]

end Walk

end Context

namespace Repository

/-- The members refer to a declared component, which stands for its members in the order of a
repetition. -/
def Inlines (r : Repository) (members : List Member) (key : Key) : Prop :=
  r.Refers members key ∧ ∃ id, key = .component id

/-- A node stands for its members in the order of a repetition, at some depth. -/
def InlinesDeep (r : Repository) (members : List Member) (key : Key) : Prop :=
  ∃ start, r.Inlines members start ∧
    Relation.ReflTransGen (fun a b => r.Inlines (r.membersOf a) b) start key

variable {r : Repository} {members : List Member} {path : List Key} {id cid : Int}

theorem inlines_component {c : Component} (hm : .component cid ∈ members)
    (hc : r.component? cid = some c) : r.Inlines members (.component cid) :=
  ⟨refers_of_component hm hc, cid, rfl⟩

/-- What a component inlines is inlined where the component is. -/
theorem InlinesDeep.through {c : Component} {key : Key} (hm : .component cid ∈ members)
    (hc : r.component? cid = some c) (h : r.InlinesDeep c.members key) :
    r.InlinesDeep members key := by
  obtain ⟨start, hstart, hkey⟩ := h
  refine ⟨.component cid, inlines_component hm hc, .head ?_ hkey⟩
  rwa [membersOf_component hc]

theorem mem_ownOrder_component :
    id ∈ (Context.ownOrder r.index path (.component cid)).value ↔
      ∃ c, r.component? cid = some c ∧ .component cid ∉ path ∧
        id ∈ (Context.repetitionOrder r.index c.members (path ++ [.component cid])).value := by
  rw [Context.ownOrder, index_component?]
  cases hc : r.component? cid with
  | none => simp
  | some c =>
    obtain rfl := (component?_eq_some_iff.1 hc).2
    by_cases visited : Key.component c.id ∈ path
    · simp [visited]
    · simp [visited]

/-- One step of the walk over the components. -/
theorem mem_repetitionOrder_step :
    id ∈ (Context.repetitionOrder r.index members path).value ↔ r.Lists members id ∨
      ∃ key, r.Inlines members key ∧ key ∉ path ∧
        id ∈ (Context.repetitionOrder r.index (r.membersOf key) (path ++ [key])).value := by
  rw [Context.value_repetitionOrder, List.mem_flatMap]
  constructor
  · rintro ⟨m, hm, h⟩
    cases m with
    | field n =>
      obtain rfl : id = n := by simpa [Context.ownOrder] using h
      exact Or.inl (Or.inl hm)
    | group gid =>
      obtain ⟨g, hg, hid⟩ : ∃ g, r.group? gid = some g ∧ g.counter = id := by
        simpa [Context.ownOrder] using h
      exact Or.inl (Or.inr ⟨gid, g, hm, hg, hid⟩)
    | component cid =>
      obtain ⟨c, hc, fresh, h⟩ := mem_ownOrder_component.1 h
      refine Or.inr ⟨.component cid, inlines_component hm hc, fresh, ?_⟩
      rwa [membersOf_component hc]
  · rintro ((h | ⟨gid, g, hm, hg, hid⟩) | ⟨key, ⟨refers, cid, rfl⟩, fresh, h⟩)
    · exact ⟨.field id, h, by simp [Context.ownOrder]⟩
    · exact ⟨.group gid, hm, by simp [Context.ownOrder, hg, hid]⟩
    · obtain ⟨c, hc⟩ := Option.isSome_iff_exists.1 refers.2
      rw [membersOf_component hc] at h
      exact ⟨.component cid, refers.1, mem_ownOrder_component.2 ⟨c, hc, fresh, h⟩⟩

/-- **The order of a repetition lists what the members and the components that they inline
list.** -/
theorem mem_repetitionOrder_iff {gid : Int} :
    id ∈ (Context.repetitionOrder r.index members [.group gid]).value ↔ r.Lists members id ∨
      ∃ key, r.InlinesDeep members key ∧ r.Lists (r.membersOf key) id := by
  refine r.index.walk_iff_reached r.membersOf (fun ms => r.Lists ms id) r.Inlines
    (fun ms path => id ∈ (Context.repetitionOrder r.index ms path).value)
    (fun _ _ h => h.1.declared) (fun _ _ => mem_repetitionOrder_step) fun key hkey ms h => ?_
  -- only components are entered, so a path of a single group keeps nothing out
  obtain ⟨_, _, rfl⟩ := h
  exact absurd (List.mem_singleton.1 hkey) nofun

end Repository
end FixBindings
