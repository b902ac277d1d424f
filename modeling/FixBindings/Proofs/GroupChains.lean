import FixBindings.Proofs.Artifacts

/-!
# Chains of groups

Two walks go from the members of a message into its groups and from there into the groups within
them.  The walk over accessors makes an inner class of every group that it enters, and of inner
classes of one name in one class it keeps the first.  The walk of the message factory makes a case
of every group that it enters, and of cases of one name in one message it keeps the first.

Both enter the same groups, those of `Index.counted`, and this file reads each walk off them once:
`filter_isUnit_unique` says which inner classes a class has, and `value_casesWithin` that the
cases are collected along a fold.  What lies further down is then a matter of names.  `Leads` says
that names are the counters along a chain of groups, `Accessor.Nests` that they lead through inner
classes, and `nests_iff_leads` that inner classes follow the chains in which every group is the
first of its name.
-/

set_option autoImplicit false

namespace FixBindings

/-- A group with the field that counts its repetitions. -/
structure CountedGroup where
  group : Group
  counter : Field

namespace CountedGroup

/-- The name of the inner class for one repetition. -/
def unitName (x : CountedGroup) : String := (className x.counter.name).value

/-- The node of the reference graph. -/
def key (x : CountedGroup) : Key := .group x.group.id

end CountedGroup

namespace Index

variable (index : Index)

/-- The group that a walk enters at a member: it is declared, off the path, and so is its
counter declared. -/
def counted? (path : List Key) : Member → Option CountedGroup
  | .group id =>
    match index.group? id with
    | none => none
    | some g =>
      if Key.group g.id ∈ path then none
      else (index.field? g.counter).map fun counter => ⟨g, counter⟩
  | _ => none

/-- The groups that a walk enters from members. -/
def counted (path : List Key) (members : List Member) : List CountedGroup :=
  members.filterMap (index.counted? path)

/-- Of the groups that a walk enters from members, the first of each inner class name. -/
def foremost (path : List Key) (members : List Member) : List CountedGroup :=
  Context.firstOf (fun x y => x.unitName == y.unitName) (index.counted path members)

variable {index} {path : List Key} {members : List Member} {x : CountedGroup}

theorem counted_cons (m : Member) (rest : List Member) : index.counted path (m :: rest) =
    (index.counted? path m).toList ++ index.counted path rest := by
  rw [counted, List.filterMap_cons]
  cases index.counted? path m <;> rfl

theorem foremost_subset : index.foremost path members ⊆ index.counted path members :=
  fun _ => mem_of_mem_firstOf

/-- What a walk enters is a declared node off its path. -/
theorem fresh_of_mem_counted (h : x ∈ index.counted path members) :
    x.key ∈ index.keys ∧ x.key ∉ path := by
  obtain ⟨m, -, hm⟩ := List.mem_filterMap.1 h
  cases m with
  | field id => exact absurd hm (by simp [counted?])
  | component id => exact absurd hm (by simp [counted?])
  | group id =>
    cases hg : index.group? id with
    | none => exact absurd hm (by simp [counted?, hg])
    | some g =>
      by_cases visited : Key.group g.id ∈ path
      · exact absurd hm (by simp [counted?, hg, visited])
      · obtain ⟨counter, -, rfl⟩ : ∃ counter, index.field? g.counter = some counter ∧
            (⟨g, counter⟩ : CountedGroup) = x := by simpa [counted?, hg, visited] using hm
        exact ⟨group_mem_keys hg, visited⟩

end Index

/-- From members on a path, the names are those of inner classes along a chain of groups, each of
which is one of `groups` at the members of the one before. -/
def Leads (groups : List Key → List Member → List CountedGroup) :
    List String → List Member → List Key → Prop
  | [], _, _ => True
  | name :: names, members, path =>
    ∃ x ∈ groups path members, x.unitName = name ∧
      Leads groups names x.group.members (path ++ [x.key])

theorem Leads.mono {groups groups' : List Key → List Member → List CountedGroup}
    (sub : ∀ path members, groups path members ⊆ groups' path members) {names : List String}
    {members : List Member} {path : List Key} (h : Leads groups names members path) :
    Leads groups' names members path := by
  induction names generalizing members path with
  | nil => trivial
  | cons name names ih =>
    obtain ⟨x, hx, hname, h⟩ := h
    exact ⟨x, sub _ _ hx, hname, ih h⟩

/-! ## Inner classes -/

namespace Accessor

/-- The names lead from accessors through inner classes, each among the accessors of the one
before. -/
def Nests : List String → List Accessor → Prop
  | [], _ => True
  | name :: names, as => ∃ counter delimiter order inner,
      .group name counter delimiter order inner ∈ as ∧ Nests names inner

/-- An inner class, however deep, is one that names lead to. -/
theorem Within.exists_nests {x : Accessor} {as : List Accessor} (h : x.Within as)
    (unit : x.isUnit) : ∃ names, Nests names as ∧ names.getLast? = some x.name := by
  induction h with
  | here hx =>
    cases x with
    | field name id => exact absurd unit Bool.false_ne_true
    | component name qualified => exact absurd unit Bool.false_ne_true
    | group name counter delimiter order inner =>
      exact ⟨[name], ⟨counter, delimiter, order, inner, hx, trivial⟩, rfl⟩
  | @inside as inner name counter delimiter order houter _ ih =>
    obtain ⟨names, hnames, last⟩ := ih
    refine ⟨name :: names, ⟨counter, delimiter, order, inner, houter, hnames⟩, ?_⟩
    rw [List.getLast?_cons, last]
    rfl

theorem isUnit_eq_of_sameSlot {a b : Accessor} (h : a.sameSlot b) : a.isUnit = b.isUnit := by
  cases a <;> cases b <;> simp_all [sameSlot, isUnit]

end Accessor

/-- Keeping the first goes through a map. -/
theorem firstOf_map {α β : Type} {same : β → β → Bool} (f : α → β) (xs : List α) :
    Context.firstOf same (xs.map f) =
      (Context.firstOf (fun a b => same (f a) (f b)) xs).map f := by
  induction xs with
  | nil => rfl
  | cons a rest ih =>
    rw [List.map_cons, Context.firstOf, ih, Context.firstOf, List.map_cons, List.filter_map]
    rfl

namespace Context

section Classes

variable (e : Context) (package : String)

/-- The inner class of a group that a walk enters from a path. -/
def unitOf (path : List Key) (x : CountedGroup) : Accessor :=
  e.unit package x.group x.counter (path ++ [x.key])

variable {e package} {path : List Key} {members : List Member}

/-- What stands beside the class of a component is no inner class. -/
theorem isUnit_of_direct (direct : ∀ m ∈ members, isDirect m) {x : Accessor}
    (h : x ∈ (e.accessorsOf package members path).value) : x.isUnit = false := by
  induction path using e.index.walk_induction generalizing members with
  | step path ih =>
    obtain ⟨m, hm, hx⟩ := mem_accessorsOf.1 h
    cases hx with
    | field hf => rfl
    | groupClass => exact absurd (direct _ hm) Bool.false_ne_true
    | counter => rfl
    | unit => exact absurd (direct _ hm) Bool.false_ne_true
    | componentClass => rfl
    | beside hc _ fresh hx =>
      exact ih _ (Index.component_mem_keys hc) fresh (fun m hm => (List.mem_filter.1 hm).2) hx

/-- A member contributes the inner class of the group that the walk enters there. -/
theorem filter_isUnit_own (path : List Key) (m : Member) :
    (e.ownAccessors package path m).value.filter Accessor.isUnit =
      ((e.index.counted? path m).map (e.unitOf package path)).toList := by
  cases m with
  | field id =>
    cases hf : e.index.field? id with
    | none => simp [ownAccessors, Index.counted?, hf]
    | some f => simp [ownAccessors, Index.counted?, hf, Accessor.isUnit]
  | group id =>
    cases hg : e.index.group? id with
    | none => simp [ownAccessors, Index.counted?, hg]
    | some g =>
      by_cases visited : Key.group g.id ∈ path
      · simp [ownAccessors, Index.counted?, hg, visited]
      · cases hc : e.index.field? g.counter with
        | none => simp [ownAccessors, Index.counted?, hg, visited, hc]
        | some counter =>
          simp [ownAccessors, Index.counted?, hg, visited, hc, classAccessor, Accessor.isUnit,
            Accessor.repetition, unitOf, unit, CountedGroup.key]
  | component id =>
    refine List.filter_eq_nil_iff.2 fun x hx => ?_
    cases mem_ownAccessors.1 hx with
    | componentClass => exact Bool.false_ne_true
    | beside _ _ _ hx =>
      rw [isUnit_of_direct (fun m hm => (List.mem_filter.1 hm).2) hx]
      exact Bool.false_ne_true

theorem filter_isUnit_accessorsOf (members : List Member) (path : List Key) :
    (e.accessorsOf package members path).value.filter Accessor.isUnit =
      (e.index.counted path members).map (e.unitOf package path) := by
  induction members with
  | nil => simp [accessorsOf, Index.counted]
  | cons m rest ih =>
    rw [accessorsOf_cons, Traced.value_bind, Traced.value_bind, Traced.value_pure,
      List.filter_append, filter_isUnit_own, ih, Index.counted_cons, List.map_append,
      Option.toList_map]

/-- **The inner classes of a class** are those of the foremost groups. -/
theorem filter_isUnit_unique (members : List Member) (path : List Key) :
    (unique (e.accessorsOf package members path).value).filter Accessor.isUnit =
      (e.index.foremost path members).map (e.unitOf package path) := by
  have first (as : List Accessor) : (unique as).filter Accessor.isUnit =
      firstOf Accessor.sameSlot (as.filter Accessor.isUnit) :=
    filter_firstOf fun _ _ _ _ => Accessor.isUnit_eq_of_sameSlot
  rw [first, filter_isUnit_accessorsOf, firstOf_map]
  rfl

theorem unit_mem_unique {name : String} {counter delimiter : Int} {order : List Int}
    {inner : List Accessor} :
    .group name counter delimiter order inner ∈
        unique (e.accessorsOf package members path).value ↔
      ∃ x ∈ e.index.foremost path members,
        e.unitOf package path x = .group name counter delimiter order inner := by
  rw [← List.mem_map, ← filter_isUnit_unique, List.mem_filter]
  exact (and_iff_left rfl).symm

/-- **Names lead through the inner classes of a class exactly if they are those of a chain of
foremost groups.** -/
theorem nests_iff_leads {names : List String} :
    Accessor.Nests names (unique (e.accessorsOf package members path).value) ↔
      Leads e.index.foremost names members path := by
  induction names generalizing members path with
  | nil => exact Iff.rfl
  | cons name names ih =>
    constructor
    · rintro ⟨counter, delimiter, order, inner, hunit, hrest⟩
      obtain ⟨x, hx, hname⟩ := unit_mem_unique.1 hunit
      obtain ⟨rfl, -, -, -, rfl⟩ := Accessor.group.inj hname
      exact ⟨x, hx, rfl, ih.1 hrest⟩
    · rintro ⟨x, hx, rfl, hrest⟩
      exact ⟨_, _, _, _, unit_mem_unique.2 ⟨x, hx, rfl⟩, ih.2 hrest⟩

/-! ## Cases of the factory -/

variable {index : Index} {parent : String} {cases : List CounterCase}

/-- The name of the class that names lead to from a class. -/
def qualify (parent : String) (names : List String) : String :=
  names.foldl (fun qualified name => qualified ++ "." ++ name) parent

/-- The case of the inner class that names lead to. -/
def caseAt (parent : String) (names : List String) : CounterCase :=
  ⟨names.getLast?.getD "", qualify parent names⟩

/-- The cases after a group that the walk enters. -/
def casesAfter (index : Index) (parent : String) (path : List Key) (cases : List CounterCase)
    (x : CountedGroup) : List CounterCase :=
  (casesWithin index (parent ++ "." ++ x.unitName) x.group.members (path ++ [x.key])
    (addCase cases (caseAt parent [x.unitName]))).value

theorem value_ownCases (m : Member) : (ownCases index parent path cases m).value =
    (index.counted? path m).toList.foldl (casesAfter index parent path) cases := by
  cases m with
  | field id => rfl
  | component id => rfl
  | group id =>
    cases hg : index.group? id with
    | none => simp [ownCases, Index.counted?, hg]
    | some g =>
      by_cases visited : Key.group g.id ∈ path
      · simp [ownCases, Index.counted?, hg, visited]
      · cases hc : index.field? g.counter with
        | none => simp [ownCases, Index.counted?, hg, visited, hc]
        | some counter =>
          simp [ownCases, Index.counted?, hg, visited, hc, casesAfter, CountedGroup.unitName,
            CountedGroup.key, caseAt, qualify]

/-- **The cases are collected along the groups that the walk enters.** -/
theorem value_casesWithin (index : Index) (parent : String) (members : List Member)
    (path : List Key) (cases : List CounterCase) :
    (casesWithin index parent members path cases).value =
      (index.counted path members).foldl (casesAfter index parent path) cases := by
  induction members generalizing cases with
  | nil => simp [casesWithin, Index.counted]
  | cons m rest ih =>
    rw [casesWithin_cons, Traced.value_bind, value_ownCases, ih, Index.counted_cons,
      List.foldl_append]

/-- **Induction along the walk of the factory**: what holds of the cases at the start, and is kept
when a case is added for a chain of groups, holds of the cases at the end. -/
theorem casesWithin_induction {motive : List CounterCase → Prop} (start : motive cases)
    (step : ∀ names cases, names ≠ [] → Leads index.counted names members path → motive cases →
      motive (addCase cases (caseAt parent names))) :
    motive (casesWithin index parent members path cases).value := by
  induction path using index.walk_induction generalizing members parent cases with
  | step path ih =>
    have fold (xs : List CountedGroup) (sub : xs ⊆ index.counted path members)
        (cases : List CounterCase) (h : motive cases) :
        motive (xs.foldl (casesAfter index parent path) cases) := by
      induction xs generalizing cases with
      | nil => exact h
      | cons x xs ihx =>
        obtain ⟨hx, hxs⟩ := List.cons_subset.1 sub
        obtain ⟨declared, fresh⟩ := Index.fresh_of_mem_counted hx
        refine ihx hxs _ (ih _ declared fresh ?_ fun names cases ne leads h => ?_)
        · exact step [x.unitName] cases (List.cons_ne_nil _ _) ⟨x, hx, rfl, trivial⟩ h
        · -- a chain from within the group is one from here with the group in front
          have deeper := step (x.unitName :: names) cases (List.cons_ne_nil _ _)
            ⟨x, hx, rfl, leads⟩ h
          obtain ⟨last, hlast⟩ := Option.ne_none_iff_exists'.1 (mt List.getLast?_eq_none_iff.1 ne)
          rw [caseAt, List.getLast?_cons, hlast] at deeper
          rw [caseAt, hlast]
          exact deeper
    rw [value_casesWithin]
    exact fold _ (List.Subset.refl _) cases start

theorem mem_addCase_of_mem {c case : CounterCase} (h : c ∈ cases) : c ∈ addCase cases case := by
  rw [addCase]
  split
  · exact h
  · exact List.mem_append_left _ h

/-- There is a case of the name once one has been added. -/
theorem exists_mem_addCase (cases : List CounterCase) (case : CounterCase) :
    ∃ c ∈ addCase cases case, c.counterName = case.counterName := by
  rw [addCase]
  split
  · rename_i there
    obtain ⟨c, hc, same⟩ := List.any_eq_true.1 there
    exact ⟨c, hc, beq_iff_eq.1 same⟩
  · exact ⟨case, List.mem_append_right _ (List.mem_singleton_self _), rfl⟩

theorem nodup_addCase {case : CounterCase} (h : (cases.map CounterCase.counterName).Nodup) :
    ((addCase cases case).map CounterCase.counterName).Nodup := by
  rw [addCase]
  split
  · exact h
  · rename_i new
    rw [List.map_append, List.nodup_append]
    refine ⟨h, by simp, fun name hname other hother => ?_⟩
    obtain ⟨c, hc, rfl⟩ := List.mem_map.1 hname
    obtain rfl := List.mem_singleton.1 hother
    intro same
    exact new (List.any_eq_true.2 ⟨c, hc, beq_iff_eq.2 same⟩)

theorem subset_casesWithin : cases ⊆ (casesWithin index parent members path cases).value :=
  fun _ h => casesWithin_induction h fun _ _ _ _ => mem_addCase_of_mem

/-- A case that is there when a group is entered is there in the end. -/
theorem mem_foldl_casesAfter {c : CounterCase} (xs : List CountedGroup) (h : c ∈ cases) :
    c ∈ xs.foldl (casesAfter index parent path) cases := by
  induction xs generalizing cases with
  | nil => exact h
  | cons x xs ih => exact ih (subset_casesWithin (mem_addCase_of_mem h))

/-- **Every chain of groups ends in the counter of a case.** -/
theorem exists_case_of_leads {names : List String} {name : String}
    (h : Leads index.counted names members path) (last : names.getLast? = some name) :
    ∃ c ∈ (casesWithin index parent members path cases).value, c.counterName = name := by
  induction names generalizing members path parent cases with
  | nil => exact absurd last (by simp)
  | cons first names ih =>
    obtain ⟨x, hx, rfl, hrest⟩ := h
    obtain ⟨before, after, split⟩ := List.append_of_mem hx
    rw [value_casesWithin, split, List.foldl_append, List.foldl_cons]
    -- what the walk finds within the group it still has after the groups that follow
    have inner : ∃ c ∈ casesAfter index parent path
        (before.foldl (casesAfter index parent path) cases) x, c.counterName = name := by
      cases names with
      | nil =>
        obtain ⟨c, hc, hname⟩ := exists_mem_addCase
          (before.foldl (casesAfter index parent path) cases) (caseAt parent [x.unitName])
        exact ⟨c, subset_casesWithin hc, hname.trans (Option.some.inj last)⟩
      | cons second names => exact ih hrest last
    obtain ⟨c, hc, hname⟩ := inner
    exact ⟨c, mem_foldl_casesAfter after hc, hname⟩

end Classes

end Context
end FixBindings
