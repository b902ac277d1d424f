import FixBindings.Proofs.Reachability
import FixBindings.Schema.Usage

/-!
# The used fields are the reachable ones

`Index.fieldIds` walks along every path of the reference graph that repeats no node.  The fields
that messages use are defined here without any walk: `Repository.Reaches` is reachability along
the references that may be entered, and `Repository.Uses` says that a field is a member of the
messages or of a reachable node, or counts the repetitions of a reachable group.  The main result,
`usage_iff_reachable`, is that the walk finds exactly these, cycles and dangling references or not,
and that the application layer is left with what the session layer does not use.

The walk is opened once, in `fieldIds_cons`: after that it is a union over the members of what
each of them contributes, and `mem_fieldIds_step` reads it as a step of `Index.walk_iff_reached`.
-/

set_option autoImplicit false

namespace FixBindings

/-! ## Sets of ids -/

theorem mem_insertId {id n : Int} {ids : List Int} : n ∈ insertId id ids ↔ n = id ∨ n ∈ ids := by
  induction ids with
  | nil => simp [insertId]
  | cons m rest ih =>
    rw [insertId]
    split
    · simp
    · split
      · rename_i h
        simp [h]
      · rw [List.mem_cons, ih, List.mem_cons, or_left_comm]

theorem insertId_ascending {id : Int} {ids : List Int} (h : ids.Pairwise (· < ·)) :
    (insertId id ids).Pairwise (· < ·) := by
  induction ids with
  | nil => simp [insertId]
  | cons m rest ih =>
    obtain ⟨hm, hrest⟩ := List.pairwise_cons.1 h
    rw [insertId]
    split
    · rename_i hlt
      refine List.pairwise_cons.2 ⟨fun n hn => ?_, h⟩
      rcases List.mem_cons.1 hn with rfl | hn
      · exact hlt
      · exact Int.lt_trans hlt (hm n hn)
    · split
      · exact h
      · refine List.pairwise_cons.2 ⟨fun n hn => ?_, ih hrest⟩
        rcases mem_insertId.1 hn with rfl | hn
        · omega
        · exact hm n hn

theorem mem_idSet {n : Int} {ids : List Int} : n ∈ idSet ids ↔ n ∈ ids := by
  have h (set : List Int) :
      n ∈ ids.foldl (fun set id => insertId id set) set ↔ n ∈ set ∨ n ∈ ids := by
    induction ids generalizing set with
    | nil => simp
    | cons id rest ih =>
      rw [List.foldl_cons, ih, mem_insertId, List.mem_cons, or_assoc, or_left_comm]
  rw [idSet, h]
  simp

theorem idSet_ascending (ids : List Int) : (idSet ids).Pairwise (· < ·) := by
  have h (set : List Int) (hset : set.Pairwise (· < ·)) :
      (ids.foldl (fun set id => insertId id set) set).Pairwise (· < ·) := by
    induction ids generalizing set with
    | nil => exact hset
    | cons id rest ih => exact ih _ (insertId_ascending hset)
  exact h [] List.Pairwise.nil

/-! ## Reachable fields -/

/-- Whether a walk over used fields may enter a node: the standard header and trailer only if
`framed`. -/
def SessionLayer.Admits (layer : SessionLayer) (framed : Bool) : Key → Prop
  | .group _ => True
  | .component id => layer.isFrame id → framed

namespace Repository

variable (r : Repository) (layer : SessionLayer) (framed : Bool)

/-- The members refer to a node that may be entered. -/
def Enters (members : List Member) (key : Key) : Prop :=
  r.Refers members key ∧ layer.Admits framed key

/-- A node is reached from members along references that may be entered. -/
def Reaches (members : List Member) (key : Key) : Prop :=
  ∃ start, r.Enters layer framed members start ∧
    Relation.ReflTransGen (fun a b => r.Enters layer framed (r.membersOf a) b) start key

/-- The id of the field that counts the repetitions of a node. -/
def counterOf? : Key → Option Int
  | .group id => (r.group? id).map Group.counter
  | .component _ => none

/-- A field is among the members, among those of a node reached from them, or the counter of a
group reached from them. -/
def Uses (members : List Member) (id : Int) : Prop :=
  .field id ∈ members ∨ ∃ key, r.Reaches layer framed members key ∧
    (.field id ∈ r.membersOf key ∨ r.counterOf? key = some id)

/-- A field is among the members or the counter of a group among them. -/
def Lists (members : List Member) (id : Int) : Prop :=
  .field id ∈ members ∨ ∃ gid g, .group gid ∈ members ∧ r.group? gid = some g ∧ g.counter = id

variable {r layer framed} {members : List Member} {id : Int}

/-- A group may always be entered. -/
theorem enters_group {gid : Int} {g : Group} (hm : .group gid ∈ members)
    (hg : r.group? gid = some g) : r.Enters layer framed members (.group gid) :=
  ⟨refers_of_group hm hg, trivial⟩

theorem Enters.declared {key : Key} (h : r.Enters layer framed members key) :
    key ∈ r.index.keys := h.1.declared

/-- What the members of a node reach is reached where the node may be entered. -/
theorem Reaches.through {start key : Key} (enters : r.Enters layer framed members start)
    (h : r.Reaches layer framed (r.membersOf start) key) : r.Reaches layer framed members key := by
  obtain ⟨next, hnext, hkey⟩ := h
  exact ⟨start, enters, .head hnext hkey⟩

/-- What the members of a node use is used where the node may be entered. -/
theorem Uses.through {start : Key} (enters : r.Enters layer framed members start)
    (h : r.Uses layer framed (r.membersOf start) id) : r.Uses layer framed members id := by
  refine Or.inr ?_
  rcases h with h | ⟨key, reaches, h⟩
  · exact ⟨start, ⟨start, enters, .refl⟩, Or.inl h⟩
  · exact ⟨key, reaches.through enters, h⟩

theorem Uses.mono {sub : List Member} (h : r.Uses layer framed sub id) (le : sub ⊆ members) :
    r.Uses layer framed members id := by
  rcases h with h | ⟨key, ⟨start, ⟨refers, admitted⟩, hkey⟩, h⟩
  · exact Or.inl (le h)
  · exact Or.inr ⟨key, ⟨start, ⟨refers.mono le, admitted⟩, hkey⟩, h⟩

/-- The counter of a group among the members makes no difference to what is used, for the group
is reached. -/
theorem uses_iff_lists : r.Uses layer framed members id ↔ r.Lists members id ∨
    ∃ key, r.Reaches layer framed members key ∧ r.Lists (r.membersOf key) id := by
  have counter {gid : Int} {g : Group} (hg : r.group? gid = some g) :
      r.counterOf? (.group gid) = some g.counter := by
    rw [counterOf?, hg, Option.map_some]
  constructor
  · rintro (h | ⟨key, ⟨start, hstart, hkey⟩, h | h⟩)
    · exact Or.inl (Or.inl h)
    · exact Or.inr ⟨key, ⟨start, hstart, hkey⟩, Or.inl h⟩
    · -- the group is reached because the members before it refer to it
      cases key with
      | component cid => exact absurd h (by simp [counterOf?])
      | group gid =>
        obtain ⟨g, hg, hid⟩ := Option.map_eq_some_iff.1 h
        rcases hkey.cases_tail with rfl | ⟨b, hb, hlast⟩
        · exact Or.inl (Or.inr ⟨gid, g, hstart.1.1, hg, hid⟩)
        · exact Or.inr ⟨b, ⟨start, hstart, hb⟩, Or.inr ⟨gid, g, hlast.1.1, hg, hid⟩⟩
  · rintro (h | ⟨key, ⟨start, hstart, hkey⟩, h⟩)
    · rcases h with h | ⟨gid, g, hm, hg, rfl⟩
      · exact Or.inl h
      · exact Or.inr ⟨.group gid, ⟨.group gid, enters_group hm hg, .refl⟩, Or.inr (counter hg)⟩
    · rcases h with h | ⟨gid, g, hm, hg, rfl⟩
      · exact Or.inr ⟨key, ⟨start, hstart, hkey⟩, Or.inl h⟩
      · refine Or.inr ⟨.group gid, ⟨start, hstart, hkey.tail (enters_group hm hg)⟩, ?_⟩
        exact Or.inr (counter hg)

end Repository

/-! ## The walk -/

namespace Index

section Walk

variable (index : Index) (layer : SessionLayer) (framed : Bool)

/-- The ids that one member contributes to a walk. -/
def ownFieldIds (path : List Key) : Member → Traced (List Int)
  | .field id => return [id]
  | .group id =>
    match index.group? id with
    | none => do
      Traced.report (.missing .usage .group id)
      return []
    | some g =>
      if Key.group g.id ∈ path then do
        Traced.report (.cyclic .usage .group g.id)
        return [g.counter]
      else do
        let inner ← index.fieldIds layer framed g.members (path ++ [.group g.id])
        return g.counter :: inner
  | .component id =>
    match index.component? id with
    | none => do
      Traced.report (.missing .usage .component id)
      return []
    | some c =>
      if layer.isFrame c.id && !framed then
        return []
      else if Key.component c.id ∈ path then do
        Traced.report (.cyclic .usage .component c.id)
        return []
      else
        index.fieldIds layer framed c.members (path ++ [.component c.id])

/-- **A walk is a union over the members.** -/
theorem fieldIds_cons (m : Member) (rest : List Member) (path : List Key) :
    index.fieldIds layer framed (m :: rest) path = do
      let own ← index.ownFieldIds layer framed path m
      let others ← index.fieldIds layer framed rest path
      return own ++ others := by
  cases m with
  | field id => simp [fieldIds, ownFieldIds]
  | group id =>
    rw [fieldIds, ownFieldIds]
    split
    · rename_i h
      simp [h]
    · rename_i g h
      rw [h]
      by_cases visited : Key.group g.id ∈ path
      · simp [visited]
      · simp [visited]
  | component id =>
    rw [fieldIds, ownFieldIds]
    split
    · rename_i h
      simp [h]
    · rename_i c h
      rw [h]
      by_cases pruned : (layer.isFrame c.id && !framed) = true
      · simp only [pruned, if_true, pure_bind]
      · by_cases visited : Key.component c.id ∈ path
        · simp [pruned, visited]
        · simp [pruned, visited]

theorem value_fieldIds (members : List Member) (path : List Key) :
    (index.fieldIds layer framed members path).value =
      members.flatMap fun m => (index.ownFieldIds layer framed path m).value := by
  induction members with
  | nil => simp [fieldIds]
  | cons m rest ih => rw [fieldIds_cons]; simp [ih]

/-- The walk meets no fault, for it looks at ids only. -/
theorem fieldIds_clean (members : List Member) (path : List Key) :
    (index.fieldIds layer framed members path).Clean := by
  induction path using index.walk_induction generalizing members with
  | step path ih =>
    have own (m : Member) : (index.ownFieldIds layer framed path m).Clean := by
      cases m with
      | field id => simp [ownFieldIds]
      | group id =>
        rw [ownFieldIds]
        split
        · simp
        · rename_i g hg
          split
          · simp
          · rename_i fresh
            simpa using ih _ (group_mem_keys hg) fresh g.members
      | component id =>
        rw [ownFieldIds]
        split
        · simp
        · rename_i c hc
          split
          · simp
          · split
            · simp
            · rename_i fresh
              exact ih _ (component_mem_keys hc) fresh c.members
    induction members with
    | nil => simp [fieldIds]
    | cons m rest ihm =>
      rw [fieldIds_cons]
      simp [own m, ihm]

theorem usedFieldIds_clean (messages : List Message) :
    (index.usedFieldIds layer framed messages).Clean := by
  simp [usedFieldIds, fieldIds_clean]

end Walk

end Index

/-! ## The walk finds the reachable fields -/

namespace Repository

variable {r : Repository} {layer : SessionLayer} {framed : Bool} {members : List Member}
  {path : List Key} {id : Int}

theorem mem_ownFieldIds_group {gid : Int} :
    id ∈ (r.index.ownFieldIds layer framed path (.group gid)).value ↔
      ∃ g, r.group? gid = some g ∧ (g.counter = id ∨ .group gid ∉ path ∧
        id ∈ (r.index.fieldIds layer framed g.members (path ++ [.group gid])).value) := by
  rw [Index.ownFieldIds, index_group?]
  cases hg : r.group? gid with
  | none => simp
  | some g =>
    obtain rfl := (group?_eq_some_iff.1 hg).2
    by_cases visited : Key.group g.id ∈ path
    · simp [visited, eq_comm]
    · simp [visited, eq_comm]

theorem mem_ownFieldIds_component {cid : Int} :
    id ∈ (r.index.ownFieldIds layer framed path (.component cid)).value ↔
      ∃ c, r.component? cid = some c ∧ layer.Admits framed (.component cid) ∧
        .component cid ∉ path ∧
        id ∈ (r.index.fieldIds layer framed c.members (path ++ [.component cid])).value := by
  rw [Index.ownFieldIds, index_component?]
  cases hc : r.component? cid with
  | none => simp
  | some c =>
    obtain rfl := (component?_eq_some_iff.1 hc).2
    by_cases admitted : layer.Admits framed (.component c.id)
    · have open' : ¬(layer.isFrame c.id && !framed) = true := by
        simpa [SessionLayer.Admits] using admitted
      by_cases visited : Key.component c.id ∈ path
      · simp [open', visited]
      · simp [open', visited, admitted]
    · have pruned : (layer.isFrame c.id && !framed) = true := by
        simpa [SessionLayer.Admits] using admitted
      simp [pruned, admitted]

/-- One step of the walk over the reference graph. -/
theorem mem_fieldIds_step :
    id ∈ (r.index.fieldIds layer framed members path).value ↔ r.Lists members id ∨
      ∃ key, r.Enters layer framed members key ∧ key ∉ path ∧
        id ∈ (r.index.fieldIds layer framed (r.membersOf key) (path ++ [key])).value := by
  rw [Index.value_fieldIds, List.mem_flatMap]
  constructor
  · rintro ⟨m, hm, h⟩
    cases m with
    | field n =>
      obtain rfl : id = n := by simpa [Index.ownFieldIds] using h
      exact Or.inl (Or.inl hm)
    | group gid =>
      obtain ⟨g, hg, hid | ⟨fresh, h⟩⟩ := mem_ownFieldIds_group.1 h
      · exact Or.inl (Or.inr ⟨gid, g, hm, hg, hid⟩)
      · refine Or.inr ⟨.group gid, enters_group hm hg, fresh, ?_⟩
        rwa [membersOf_group hg]
    | component cid =>
      obtain ⟨c, hc, admitted, fresh, h⟩ := mem_ownFieldIds_component.1 h
      refine Or.inr ⟨.component cid, ⟨refers_of_component hm hc, admitted⟩, fresh, ?_⟩
      rwa [membersOf_component hc]
  · rintro ((h | ⟨gid, g, hm, hg, hid⟩) | ⟨key, ⟨refers, admitted⟩, fresh, h⟩)
    · exact ⟨.field id, h, by simp [Index.ownFieldIds]⟩
    · exact ⟨.group gid, hm, mem_ownFieldIds_group.2 ⟨g, hg, Or.inl hid⟩⟩
    · cases key with
      | group gid =>
        obtain ⟨g, hg⟩ := Option.isSome_iff_exists.1 refers.2
        rw [membersOf_group hg] at h
        exact ⟨.group gid, refers.1, mem_ownFieldIds_group.2 ⟨g, hg, Or.inr ⟨fresh, h⟩⟩⟩
      | component cid =>
        obtain ⟨c, hc⟩ := Option.isSome_iff_exists.1 refers.2
        rw [membersOf_component hc] at h
        exact ⟨.component cid, refers.1,
          mem_ownFieldIds_component.2 ⟨c, hc, admitted, fresh, h⟩⟩

/-- A walk with nothing on its path yet finds the fields that its members use. -/
theorem mem_fieldIds_iff_uses :
    id ∈ (r.index.fieldIds layer framed members []).value ↔ r.Uses layer framed members id := by
  rw [uses_iff_lists]
  exact r.index.walk_iff_reached r.membersOf (fun ms => r.Lists ms id) (r.Enters layer framed)
    (fun ms path => id ∈ (r.index.fieldIds layer framed ms path).value)
    (fun _ _ h => h.declared) (fun _ _ => mem_fieldIds_step)
    (fun _ h => absurd h List.not_mem_nil)

/-- A field is used by one of some messages. -/
def UsedBy (r : Repository) (layer : SessionLayer) (framed : Bool) (messages : List Message)
    (id : Int) : Prop :=
  ∃ m ∈ messages, r.Uses layer framed m.members id

theorem mem_usedFieldIds {messages : List Message} :
    id ∈ (r.index.usedFieldIds layer framed messages).value ↔
      r.UsedBy layer framed messages id := by
  rw [Index.usedFieldIds, UsedBy]
  simp only [Traced.value_bind, Traced.value_mapM, Traced.value_pure, mem_idSet,
    ← List.flatMap_def, List.mem_flatMap, mem_fieldIds_iff_uses]

theorem usedFieldIds_ascending (index : Index) (messages : List Message) :
    (index.usedFieldIds layer framed messages).value.Pairwise (· < ·) :=
  idSet_ascending _

/-- **The fields found to be used are the reachable ones.**  For any messages and whether or not
the header and trailer are entered, the walk along the references of any repository ends without a
fault, and lists, each once, the fields reachable in the reference graph.  Of the two layers, the
session layer has the fields reachable from its messages, and the application layer those
reachable from its own messages and from none of the session layer. -/
theorem usage_iff_reachable (r : Repository) (layer : SessionLayer) (framed : Bool) :
    (∀ (messages : List Message) (ledger : Ledger), ∃ ids,
      ((r.index.usedFieldIds layer framed messages).run ledger).1 = .ok ids ∧
        ids.Pairwise (· < ·) ∧ ∀ id, id ∈ ids ↔ r.UsedBy layer framed messages id) ∧
    ∀ (application session : List Message) (ledger : Ledger), ∃ usage,
      ((r.index.usage layer framed application session).run ledger).1 = .ok usage ∧
        usage.application.Pairwise (· < ·) ∧ usage.session.Pairwise (· < ·) ∧
        (∀ id, id ∈ usage.session ↔ r.UsedBy layer framed session id) ∧
        ∀ id, id ∈ usage.application ↔
          r.UsedBy layer framed application id ∧ ¬r.UsedBy layer framed session id := by
  refine ⟨fun messages ledger => ?_, fun application session ledger => ?_⟩
  · refine ⟨_, (Index.usedFieldIds_clean _ layer framed messages).run ledger,
      usedFieldIds_ascending _ _, fun id => mem_usedFieldIds⟩
  · have clean : (r.index.usage layer framed application session).Clean := by
      simp [Index.usage, Index.usedFieldIds_clean]
    refine ⟨_, clean.run ledger, ?_, usedFieldIds_ascending _ _, fun id => mem_usedFieldIds, ?_⟩
    · exact (usedFieldIds_ascending _ _).filter _
    · intro id
      rw [← mem_usedFieldIds, ← mem_usedFieldIds]
      simp [Index.usage, List.mem_filter]

end Repository
end FixBindings
