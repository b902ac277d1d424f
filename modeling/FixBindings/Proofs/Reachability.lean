import FixBindings.Proofs.Declarations
import Mathlib.Logic.Relation

/-!
# Walks that stop where a node repeats

The groups and components of a repository are the nodes of its reference graph, and
`Repository.Refers` says which of them some members refer to.  Every walk along the references
carries the nodes on its path and refuses to enter one of them again.  It keeps no set of the nodes
that it has seen elsewhere, so what it explores is not the reachable nodes but the paths without a
repeated node.  This file says why that comes to the same.

`ReachesOff next path a c` says that `c` is reached from `a` along nodes off `path`.  With an empty
path it is plain reachability (`reachesOff_nil`), and `reachesOff_iff` is the step of a walk: to
get from `a` anywhere else, leave `a` and never come back to it.  The step makes the path longer
just as a walk does, so `Index.walk_iff` can trade the equation of a walk for reachability, once
for all walks: what differs between them is only which nodes they enter, which members they go on
with there, and what they look for.  From where a walk begins, its path keeps nothing out
(`Index.walk_iff_reached`).
-/

set_option autoImplicit false

namespace FixBindings

section Reachability

variable {α : Type} (next : α → α → Prop)

/-- `c` is reached from `a` along nodes off `path`, both ends included. -/
def ReachesOff (path : List α) (a c : α) : Prop :=
  a ∉ path ∧ Relation.ReflTransGen (fun x y => next x y ∧ y ∉ path) a c

variable {next} {path : List α} {a b c : α}

theorem ReachesOff.refl (h : a ∉ path) : ReachesOff next path a a := ⟨h, .refl⟩

theorem ReachesOff.head (ha : a ∉ path) (hab : next a b) (h : ReachesOff next path b c) :
    ReachesOff next path a c :=
  ⟨ha, .head ⟨hab, h.1⟩ h.2⟩

/-- A shorter path to keep off allows more. -/
theorem ReachesOff.shrink (h : ReachesOff next (path ++ [a]) b c) : ReachesOff next path b c := by
  have off {x : α} (hx : x ∉ path ++ [a]) : x ∉ path := fun hm => hx (List.mem_append_left _ hm)
  exact ⟨off h.1, Relation.ReflTransGen.mono (fun x y hxy => ⟨hxy.1, off hxy.2⟩) _ _ h.2⟩

theorem reachesOff_nil : ReachesOff next [] a c ↔ Relation.ReflTransGen next a c := by
  simp [ReachesOff]

/-- A way to `c` either keeps off `a` or passes it, and then what follows the last visit to `a`
keeps off it. -/
theorem ReachesOff.last_visit (h : ReachesOff next path b c) :
    ReachesOff next (path ++ [a]) b c ∨ a = c ∨
      ∃ d, next a d ∧ ReachesOff next (path ++ [a]) d c := by
  have off {x : α} (hx : x ∉ path) (hxa : x ≠ a) : x ∉ path ++ [a] := by simp [hx, hxa]
  obtain ⟨hb, h⟩ := h
  induction h using Relation.ReflTransGen.head_induction_on with
  | refl =>
    by_cases hca : c = a
    · exact Or.inr (Or.inl hca.symm)
    · exact Or.inl (.refl (off hb hca))
  | @head x y hxy _ ih =>
    rcases ih hxy.2 with h | h
    · by_cases hxa : x = a
      · exact Or.inr (Or.inr ⟨y, hxa ▸ hxy.1, h⟩)
      · exact Or.inl (h.head (off hb hxa) hxy.1)
    · exact Or.inr h

/-- **The step of a walk**: whatever is reached from `a` is `a` itself, or reached from a
successor of `a` without coming back to `a`. -/
theorem reachesOff_iff :
    ReachesOff next path a c ↔
      a ∉ path ∧ (a = c ∨ ∃ b, next a b ∧ ReachesOff next (path ++ [a]) b c) := by
  constructor
  · intro h
    refine ⟨h.1, (h.last_visit (a := a)).resolve_left fun hn => ?_⟩
    exact hn.1 (by simp)
  · rintro ⟨ha, rfl | ⟨b, hab, h⟩⟩
    · exact .refl ha
    · exact h.shrink.head ha hab

end Reachability

namespace Index

/-- **Induction along a walk**: what holds of a path whenever it holds of every path that a
declared node makes longer holds of all paths. -/
theorem walk_induction {index : Index} {motive : List Key → Prop}
    (step : ∀ path, (∀ key ∈ index.keys, key ∉ path → motive (path ++ [key])) → motive path)
    (path : List Key) : motive path := by
  induction h : index.unvisited path using Nat.strongRecOn generalizing path with
  | ind n ih =>
    subst h
    exact step path fun key declared fresh => ih _ (unvisited_lt declared fresh) _ rfl

/-- **A walk finds what is reachable off its path.**  The walk looks for something that members
may hold themselves (`here`), enters the nodes that they name (`enters`) unless they lie on the
path, and goes on with the members of that node (`inner`). -/
theorem walk_iff (index : Index) (inner : Key → List Member) (here : List Member → Prop)
    (enters : List Member → Key → Prop) (found : List Member → List Key → Prop)
    (declared : ∀ members key, enters members key → key ∈ index.keys)
    (step : ∀ members path, found members path ↔ here members ∨
      ∃ key, enters members key ∧ key ∉ path ∧ found (inner key) (path ++ [key]))
    (path : List Key) (members : List Member) :
    found members path ↔ here members ∨ ∃ key, enters members key ∧
      ∃ last, ReachesOff (fun a b => enters (inner a) b) path key last ∧ here (inner last) := by
  induction path using index.walk_induction generalizing members with
  | step path ih =>
    rw [step]
    refine or_congr_right (exists_congr fun key => and_congr_right fun hkey => ?_)
    constructor
    · rintro ⟨fresh, hfound⟩
      rw [ih key (declared members key hkey) fresh] at hfound
      rcases hfound with h | ⟨b, hb, last, hlast, h⟩
      · exact ⟨key, .refl fresh, h⟩
      · exact ⟨last, reachesOff_iff.2 ⟨fresh, Or.inr ⟨b, hb, hlast⟩⟩, h⟩
    · rintro ⟨last, hlast, h⟩
      obtain ⟨fresh, rfl | ⟨b, hb, hlast⟩⟩ := reachesOff_iff.1 hlast
      · exact ⟨fresh, (ih key (declared members key hkey) fresh _).2 (Or.inl h)⟩
      · refine ⟨fresh, (ih key (declared members key hkey) fresh _).2 (Or.inr ?_)⟩
        exact ⟨b, hb, last, hlast, h⟩

/-- **A walk finds what is reachable** where it loses nothing by its path: if a node on the path can
be entered at all, then the walk has come from its members. -/
theorem walk_iff_reached (index : Index) (inner : Key → List Member) (here : List Member → Prop)
    (enters : List Member → Key → Prop) (found : List Member → List Key → Prop)
    (declared : ∀ members key, enters members key → key ∈ index.keys)
    (step : ∀ members path, found members path ↔ here members ∨
      ∃ key, enters members key ∧ key ∉ path ∧ found (inner key) (path ++ [key]))
    {path : List Key} {members : List Member}
    (start : ∀ key ∈ path, ∀ ms, enters ms key → inner key = members) :
    found members path ↔ here members ∨ ∃ last, (∃ first, enters members first ∧
      Relation.ReflTransGen (fun a b => enters (inner a) b) first last) ∧ here (inner last) := by
  rw [index.walk_iff inner here enters found declared step]
  constructor
  · rintro (h | ⟨first, hfirst, last, ⟨-, hlast⟩, h⟩)
    · exact Or.inl h
    · have reached := Relation.ReflTransGen.mono (fun _ _ h => h.1) _ _ hlast
      exact Or.inr ⟨last, ⟨first, hfirst, reached⟩, h⟩
  · rintro (h | ⟨last, ⟨first, hfirst, hlast⟩, h⟩)
    · exact Or.inl h
    · by_contra none
      rw [not_or, not_exists] at none
      -- a way that meets the path begins anew behind the last node of the path on it
      have off (ms : List Member) (hms : enters ms first) :
          ReachesOff (fun a b => enters (inner a) b) path first last := by
        clear hfirst
        induction hlast using Relation.ReflTransGen.head_induction_on generalizing ms with
        | refl =>
          refine .refl fun visited => none.1 ?_
          rwa [← start last visited ms hms]
        | @head a b hab _ ih =>
          have behind := ih (inner a) hab
          refine behind.head (fun visited => none.2 b ?_) hab
          rw [start a visited ms hms] at hab
          exact ⟨hab, last, behind, h⟩
      exact none.2 first ⟨hfirst, last, off members hfirst, h⟩

end Index

/-! ## The reference graph -/

namespace Repository

/-- The members of a node. -/
def membersOf (r : Repository) : Key → List Member
  | .group id => ((r.group? id).map Group.members).getD []
  | .component id => ((r.component? id).map Component.members).getD []

/-- Some of the members refers to a declared node. -/
def Refers (r : Repository) (members : List Member) : Key → Prop
  | .group id => .group id ∈ members ∧ (r.group? id).isSome
  | .component id => .component id ∈ members ∧ (r.component? id).isSome

variable {r : Repository} {members : List Member} {id : Int}

@[simp] theorem membersOf_group {g : Group} (h : r.group? id = some g) :
    r.membersOf (.group id) = g.members := by
  simp [membersOf, h]

@[simp] theorem membersOf_component {c : Component} (h : r.component? id = some c) :
    r.membersOf (.component id) = c.members := by
  simp [membersOf, h]

theorem refers_of_group {g : Group} (hm : .group id ∈ members) (hg : r.group? id = some g) :
    r.Refers members (.group id) :=
  ⟨hm, by rw [hg]; rfl⟩

theorem refers_of_component {c : Component} (hm : .component id ∈ members)
    (hc : r.component? id = some c) : r.Refers members (.component id) :=
  ⟨hm, by rw [hc]; rfl⟩

theorem Refers.mono {sub : List Member} {key : Key} (h : r.Refers sub key) (le : sub ⊆ members) :
    r.Refers members key := by
  cases key with
  | group id => exact ⟨le h.1, h.2⟩
  | component id => exact ⟨le h.1, h.2⟩

theorem Refers.declared {key : Key} (h : r.Refers members key) : key ∈ r.index.keys := by
  cases key with
  | group id =>
    obtain ⟨g, hg⟩ := Option.isSome_iff_exists.1 h.2
    rw [← (group?_eq_some_iff.1 hg).2]
    exact Index.group_mem_keys (by rw [index_group?]; exact hg)
  | component id =>
    obtain ⟨c, hc⟩ := Option.isSome_iff_exists.1 h.2
    rw [← (component?_eq_some_iff.1 hc).2]
    exact Index.component_mem_keys (by rw [index_component?]; exact hc)

end Repository
end FixBindings
