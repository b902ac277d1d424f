import FixBindings.Proofs.AccessorTrees
import FixBindings.Proofs.CallPrograms
import FixBindings.Proofs.Cases
import FixBindings.Proofs.RepetitionOrders
import FixBindings.Proofs.UsedFields

/-!
# The walks as programs

The definitions of the walks come with the reason why they end.  Here they are once more without
one: `Context.body` is what a call does, member by member, and it may call anything.  Two facts are
read off the bodies.  If the calls have the results of the walks, then so has the body
(`answer_body`); and the calls of a body are on a path that a declared node off it makes longer, or
for the parts of an inner class on the same path (`allCalls_body`).
-/

set_option autoImplicit false

namespace FixBindings

namespace Context

open Program

/-- What a walk over used fields does at a member. -/
def usageStep (e : Context) (layer : SessionLayer) (framed : Bool) (path : List Key) :
    Member → Program (List Int)
  | .field id => return [id]
  | .group id =>
    match e.index.group? id with
    | none => do
      lift (Traced.report (.missing .usage .group id))
      return []
    | some g =>
      if Key.group g.id ∈ path then do
        lift (Traced.report (.cyclic .usage .group g.id))
        return [g.counter]
      else do
        let inner ← request (.usage layer framed g.members (path ++ [.group g.id]))
        return g.counter :: inner
  | .component id =>
    match e.index.component? id with
    | none => do
      lift (Traced.report (.missing .usage .component id))
      return []
    | some c =>
      if layer.isFrame c.id && !framed then
        return []
      else if Key.component c.id ∈ path then do
        lift (Traced.report (.cyclic .usage .component c.id))
        return []
      else
        request (.usage layer framed c.members (path ++ [.component c.id]))

/-- What a walk for the order of a repetition does at a member. -/
def orderStep (e : Context) (path : List Key) : Member → Program (List Int)
  | .field id => return [id]
  | .group id => do
    let group? ← lift (e.index.groupFor .order id)
    return (group?.map Group.counter).toList
  | .component id =>
    match e.index.component? id with
    | none => do
      lift (Traced.report (.missing .order .component id))
      return []
    | some c =>
      if Key.component c.id ∈ path then do
        lift (Traced.report (.cyclic .order .component c.id))
        return []
      else
        request (.order c.members (path ++ [.component c.id]))

/-- The accessor of the class of a component, which the standard header and trailer have none of. -/
def classStep (e : Context) (package : String) (c : Component) : Program (List Accessor) :=
  if e.layer.isFrame c.id then
    return []
  else do
    let component ← lift (classAccessor package c.name)
    return [component]

/-- The accessors that stand beside the class of a component. -/
def besideStep (package : String) (path : List Key) (c : Component) :
    Program (List Accessor) :=
  if Key.component c.id ∈ path then do
    lift (Traced.report (.cyclic .accessors .component c.id))
    return []
  else
    request (.accessors package (c.members.filter isDirect) (path ++ [.component c.id]))

/-- What a walk for accessors does at a member. -/
def accessorStep (e : Context) (package : String) (path : List Key) :
    Member → Program (List Accessor)
  | .field id => do
    let field? ← lift (e.index.fieldFor .accessors id)
    match field? with
    | none => return []
    | some f => do
      let name ← lift (className f.name)
      return [.field name f.id]
  | .group id =>
    match e.index.group? id with
    | none => do
      lift (Traced.report (.missing .accessors .group id))
      return []
    | some g =>
      if Key.group g.id ∈ path then do
        lift (Traced.report (.cyclic .accessors .group g.id))
        return []
      else do
        let counter? ← lift (e.index.fieldFor .accessors g.counter)
        match counter? with
        | none => return []
        | some counter => do
          let component ← lift (classAccessor package g.name)
          let name ← lift (className counter.name)
          let unit ← request (.repetition package (pure name) g counter (path ++ [.group g.id]))
          return [component, .field name counter.id, unit]
  | .component id =>
    match e.index.component? id with
    | none => do
      lift (Traced.report (.missing .accessors .component id))
      return []
    | some c =>
      if e.layer.isFrame c.id && !e.layout.options.entersFrame then
        return []
      else do
        let component ← e.classStep package c
        let inner ← besideStep package path c
        return component ++ inner

/-- What a walk for cases does at a member. -/
def caseStep (e : Context) (parent : String) (path : List Key) (cases : List CounterCase) :
    Member → Program (List CounterCase)
  | .group id =>
    match e.index.group? id with
    | none => do
      lift (Traced.report (.missing .factory .group id))
      return cases
    | some g =>
      if Key.group g.id ∈ path then do
        lift (Traced.report (.cyclic .factory .group g.id))
        return cases
      else do
        let counter? ← lift (e.index.fieldFor .factory g.counter)
        match counter? with
        | none => return cases
        | some counter => do
          let name ← lift (className counter.name)
          request (.cases (parent ++ "." ++ name) g.members (path ++ [.group g.id])
            (addCase cases ⟨name, parent ++ "." ++ name⟩))
  | .field _ => return cases
  | .component _ => return cases

/-- What a walk does.  The members are gone through in order, and nothing but a call leads on to
the members of another declaration. -/
def body (e : Context) {α : Type} : Call α → Program α
  | .usage layer framed members path =>
    List.flatten <$> members.mapM (e.usageStep layer framed path)
  | .order members path => List.flatten <$> members.mapM (e.orderStep path)
  | .accessors package members path => List.flatten <$> members.mapM (e.accessorStep package path)
  | .repetition package name g counter path => do
    let order ← request (.order g.members path)
    lift (Traced.reportIf order.isEmpty (.emptyGroup g.id))
    let name ← lift name
    let inner ← request (.accessors package g.members path)
    return .repetition name counter.id order (unique inner)
  | .cases parent members path cases => members.foldlM (e.caseStep parent path) cases

/-- What comes of a walk. -/
def walk (e : Context) (α : Type) : Call α → Traced α
  | .usage layer framed members path => e.index.fieldIds layer framed members path
  | .order members path => repetitionOrder e.index members path
  | .accessors package members path => e.accessorsOf package members path
  | .repetition package name g counter path => do
    let order ← repetitionOrder e.index g.members path
    Traced.reportIf order.isEmpty (.emptyGroup g.id)
    let name ← name
    let inner ← e.accessorsOf package g.members path
    return .repetition name counter.id order (unique inner)
  | .cases parent members path cases => casesWithin e.index parent members path cases

/-! ### Results of bodies -/

section Results

variable {e : Context} {path : List Key}

theorem answer_usageStep (layer : SessionLayer) (framed : Bool) (m : Member) :
    (e.usageStep layer framed path m).answer e.walk =
      e.index.ownFieldIds layer framed path m := by
  cases m with
  | field id => rfl
  | group id =>
    rw [usageStep, Index.ownFieldIds]
    cases e.index.group? id with
    | none => simp
    | some g => by_cases visited : Key.group g.id ∈ path <;> simp [visited, walk]
  | component id =>
    rw [usageStep, Index.ownFieldIds]
    cases e.index.component? id with
    | none => simp
    | some c =>
      by_cases pruned : (layer.isFrame c.id && !framed) = true
      · simp only [pruned, if_true, answer_pure]
      · by_cases visited : Key.component c.id ∈ path <;> simp [pruned, visited, walk]

theorem answer_orderStep (m : Member) :
    (e.orderStep path m).answer e.walk = ownOrder e.index path m := by
  cases m with
  | field id => rfl
  | group id => simp [orderStep, ownOrder]
  | component id =>
    rw [orderStep, ownOrder]
    cases e.index.component? id with
    | none => simp
    | some c => by_cases visited : Key.component c.id ∈ path <;> simp [visited, walk]

theorem answer_accessorStep (package : String) (m : Member) :
    (e.accessorStep package path m).answer e.walk = e.ownAccessors package path m := by
  cases m with
  | field id =>
    rw [accessorStep, ownAccessors, answer_bind, answer_lift]
    congr 1
    funext field?
    cases field? <;> simp
  | group id =>
    rw [accessorStep, ownAccessors]
    cases e.index.group? id with
    | none => simp
    | some g =>
      by_cases visited : Key.group g.id ∈ path
      · simp [visited]
      · simp only [visited, if_false, answer_bind, answer_lift]
        congr 1
        funext counter?
        cases counter? <;> simp [walk]
  | component id =>
    rw [accessorStep, ownAccessors]
    cases e.index.component? id with
    | none => simp
    | some c =>
      by_cases pruned : (e.layer.isFrame c.id && !e.layout.options.entersFrame) = true
      · simp only [pruned, if_true, answer_pure]
      · by_cases visited : Key.component c.id ∈ path <;>
          by_cases frame : e.layer.isFrame c.id <;>
            simp_all [classStep, besideStep, walk]

theorem answer_caseStep (parent : String) (cases : List CounterCase) (m : Member) :
    (e.caseStep parent path cases m).answer e.walk = ownCases e.index parent path cases m := by
  cases m with
  | field id => rfl
  | component id => rfl
  | group id =>
    rw [caseStep, ownCases]
    cases e.index.group? id with
    | none => simp
    | some g =>
      by_cases visited : Key.group g.id ∈ path
      · simp [visited]
      · simp only [visited, if_false, answer_bind, answer_lift]
        congr 1
        funext counter?
        cases counter? <;> simp [walk]

/-- **A body gives the result of its walk** if the calls that it makes do. -/
theorem answer_body {α : Type} (c : Call α) : (e.body c).answer e.walk = e.walk α c := by
  cases c with
  | usage layer framed members path =>
    simp only [body, walk, answer_map, answer_mapM, answer_usageStep]
    refine (eq_flatten_mapM (f := fun ms => e.index.fieldIds layer framed ms path)
      ?_ ?_ members).symm
    · rw [Index.fieldIds]
    · exact fun m rest => Index.fieldIds_cons _ _ _ m rest path
  | order members path =>
    simp only [body, walk, answer_map, answer_mapM, answer_orderStep]
    refine (eq_flatten_mapM (f := fun ms => repetitionOrder e.index ms path) ?_ ?_ members).symm
    · rw [repetitionOrder]
    · exact fun m rest => repetitionOrder_cons _ m rest path
  | accessors package members path =>
    simp only [body, walk, answer_map, answer_mapM, answer_accessorStep]
    refine (eq_flatten_mapM (f := fun ms => e.accessorsOf package ms path) ?_ ?_ members).symm
    · rw [accessorsOf]
    · exact fun m rest => accessorsOf_cons _ _ m rest path
  | repetition package name g counter path => simp [body, walk]
  | cases parent members path cases =>
    simp only [body, walk, answer_foldlM, answer_caseStep]
    induction members generalizing cases with
    | nil => rw [casesWithin, List.foldlM_nil]
    | cons m rest ih =>
      rw [casesWithin_cons, List.foldlM_cons]
      exact congrArg _ (funext ih)

end Results

/-! ### Calls of bodies -/

/-- A walk is on a path of declared nodes without repetition. -/
structure Legal (e : Context) (path : List Key) : Prop where
  nodup : path.Nodup
  declared : ∀ key ∈ path, key ∈ e.index.keys

/-- A bound for how deep the calls below a call can be nested: all of them make the path longer but
those for the parts of an inner class. -/
def rank (e : Context) {α : Type} (c : Call α) : Nat := 2 * e.index.unvisited c.path + c.weight

/-- A call is legal and comes below some rank. -/
def Descends (e : Context) (rank : Nat) (α : Type) (c : Call α) : Prop :=
  e.Legal c.path ∧ e.rank c < rank

section Calls

variable {e : Context} {path : List Key} {key : Key}

theorem Legal.nil : e.Legal [] := ⟨List.nodup_nil, nofun⟩

/-- A path that a declared node off it makes longer. -/
theorem Legal.enter (h : e.Legal path) (declared : key ∈ e.index.keys) (fresh : key ∉ path) :
    e.Legal (path ++ [key]) where
  nodup := by
    rw [← List.concat_eq_append]
    exact h.nodup.concat fresh
  declared k hk := by
    rcases List.mem_append.1 hk with hk | hk
    · exact h.declared k hk
    · exact List.mem_singleton.1 hk ▸ declared

/-- A call behind a declared node off the path comes below the calls on the path. -/
theorem Legal.descends {α : Type} {c : Call α} {n : Nat} (h : e.Legal path)
    (hn : 2 * e.index.unvisited path ≤ n) (declared : key ∈ e.index.keys) (fresh : key ∉ path)
    (hc : c.path = path ++ [key]) : e.Descends n α c := by
  have lt := Index.unvisited_lt declared fresh
  refine ⟨hc ▸ h.enter declared fresh, ?_⟩
  have weight := c.weight_le
  rw [rank, hc]
  omega

section Steps

variable {n : Nat}

theorem allCalls_usageStep (h : e.Legal path) (hn : 2 * e.index.unvisited path ≤ n)
    (layer : SessionLayer) (framed : Bool) (m : Member) :
    (e.usageStep layer framed path m).AllCalls (e.Descends n) := by
  cases m with
  | field id => exact trivial
  | group id =>
    rw [usageStep]
    split
    · exact trivial
    · rename_i g hg
      split
      · exact trivial
      · rename_i fresh
        refine allCalls_bind (allCalls_request.2 ?_) fun _ => trivial
        exact h.descends hn (Index.group_mem_keys hg) fresh rfl
  | component id =>
    rw [usageStep]
    split
    · exact trivial
    · rename_i c hc
      split
      · exact trivial
      · split
        · exact trivial
        · rename_i fresh
          exact allCalls_request.2 (h.descends hn (Index.component_mem_keys hc) fresh rfl)

theorem allCalls_orderStep (h : e.Legal path) (hn : 2 * e.index.unvisited path ≤ n) (m : Member) :
    (e.orderStep path m).AllCalls (e.Descends n) := by
  cases m with
  | field id => exact trivial
  | group id => exact trivial
  | component id =>
    rw [orderStep]
    split
    · exact trivial
    · rename_i c hc
      split
      · exact trivial
      · rename_i fresh
        exact allCalls_request.2 (h.descends hn (Index.component_mem_keys hc) fresh rfl)

theorem allCalls_besideStep (h : e.Legal path) (hn : 2 * e.index.unvisited path ≤ n)
    (package : String) {id : Int} {c : Component} (hc : e.index.component? id = some c) :
    (besideStep package path c).AllCalls (e.Descends n) := by
  rw [besideStep]
  split
  · exact trivial
  · rename_i fresh
    exact allCalls_request.2 (h.descends hn (Index.component_mem_keys hc) fresh rfl)

theorem allCalls_accessorStep (h : e.Legal path) (hn : 2 * e.index.unvisited path ≤ n)
    (package : String) (m : Member) :
    (e.accessorStep package path m).AllCalls (e.Descends n) := by
  cases m with
  | field id =>
    refine allCalls_bind (allCalls_lift _) fun field? => ?_
    cases field? <;> exact trivial
  | group id =>
    rw [accessorStep]
    split
    · exact trivial
    · rename_i g hg
      split
      · exact trivial
      · rename_i fresh
        refine allCalls_bind (allCalls_lift _) fun counter? => ?_
        cases counter? with
        | none => exact trivial
        | some counter =>
          refine allCalls_bind (allCalls_lift _) fun _ => ?_
          refine allCalls_bind (allCalls_lift _) fun _ => ?_
          refine allCalls_bind (allCalls_request.2 ?_) fun _ => trivial
          exact h.descends hn (Index.group_mem_keys hg) fresh rfl
  | component id =>
    rw [accessorStep]
    split
    · exact trivial
    · rename_i c hc
      split
      · exact trivial
      · have own : (e.classStep package c).AllCalls (e.Descends n) := by
          rw [classStep]
          split <;> exact trivial
        exact allCalls_bind own fun _ =>
          allCalls_bind (allCalls_besideStep h hn package hc) fun _ => trivial

theorem allCalls_caseStep (h : e.Legal path) (hn : 2 * e.index.unvisited path ≤ n)
    (parent : String) (cases : List CounterCase) (m : Member) :
    (e.caseStep parent path cases m).AllCalls (e.Descends n) := by
  cases m with
  | field id => exact trivial
  | component id => exact trivial
  | group id =>
    rw [caseStep]
    split
    · exact trivial
    · rename_i g hg
      split
      · exact trivial
      · rename_i fresh
        refine allCalls_bind (allCalls_lift _) fun counter? => ?_
        cases counter? with
        | none => exact trivial
        | some counter =>
          refine allCalls_bind (allCalls_lift _) fun _ => ?_
          exact allCalls_request.2 (h.descends hn (Index.group_mem_keys hg) fresh rfl)

end Steps

/-- **The calls of a body** are legal where its own call is, and come below it. -/
theorem allCalls_body {α : Type} {c : Call α} (h : e.Legal c.path) :
    (e.body c).AllCalls (e.Descends (e.rank c)) := by
  have hn : 2 * e.index.unvisited c.path ≤ e.rank c := Nat.le_add_right _ _
  cases c with
  | usage layer framed members path =>
    exact allCalls_map (allCalls_mapM fun m _ => allCalls_usageStep h hn layer framed m)
  | order members path => exact allCalls_map (allCalls_mapM fun m _ => allCalls_orderStep h hn m)
  | accessors package members path =>
    exact allCalls_map (allCalls_mapM fun m _ => allCalls_accessorStep h hn package m)
  | repetition package name g counter path =>
    have below {β : Type} {d : Call β} (hd : d.path = path) (light : d.weight = 0) :
        e.Descends (e.rank (.repetition package name g counter path)) β d := by
      refine ⟨hd ▸ h, ?_⟩
      rw [rank, hd, light]
      exact Nat.lt_succ_self _
    refine allCalls_bind (allCalls_request.2 (below rfl rfl)) fun _ => ?_
    refine allCalls_bind (allCalls_lift _) fun _ => allCalls_bind (allCalls_lift _) fun _ => ?_
    exact allCalls_bind (allCalls_request.2 (below rfl rfl)) fun _ => trivial
  | cases parent members path cases =>
    exact allCalls_foldlM (fun cases m _ => allCalls_caseStep h hn parent cases m) cases

end Calls

end Context

end FixBindings
