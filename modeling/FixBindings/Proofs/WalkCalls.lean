import FixBindings.Proofs.Requests
import FixBindings.Proofs.WalkBodies
import Mathlib.Data.List.Dedup
import Mathlib.Data.List.Perm.Subperm

/-!
# Walks return

`Program.Evaluates` runs a program to its end, call by call, and keeps a trail of the paths of all
the walks that are called on the way.  A program that never returns evaluates to nothing, so it is
a statement about the walks that they do: `exists_evaluates_body` has it for every call on a path of
declared nodes without repetition, by induction on the nodes off the path, for which nothing needs
to be known of a body but its calls.  And as the calls of such a call are on such paths again, all
paths on a trail are.

`walks_return` says this of all that a description of a repository asks for.
-/

set_option autoImplicit false

namespace FixBindings

/-! ## Evaluation -/

namespace Program

/-- **A program is run to its end.**  Its calls are made one after another, and for each of them the
body of the walk is run to its end.  The trail holds the paths of all the walks that are called. -/
inductive Evaluates (e : Context) : {α : Type} → Program α → List (List Key) → Traced α → Prop
  | done {α : Type} (a : α) : Evaluates e (.done a) [] (pure a)
  | remark {α : Type} {remarks : List Remark} {next : Program α} {trail : List (List Key)}
      {x : Traced α} (rest : Evaluates e next trail x) :
      Evaluates e (.remark remarks next) trail ⟨x.value, remarks ++ x.remarks⟩
  | call {α β : Type} {c : Call β} {next : β → Program α} {inner trail : List (List Key)}
      {y : Traced β} {x : Traced α} (own : Evaluates e (e.body c) inner y)
      (rest : Evaluates e (next y.value) trail x) :
      Evaluates e (.call c next) (c.path :: inner ++ trail) (y >>= fun _ => x)

variable {e : Context} {α : Type} {p : Program α} {trail trail' : List (List Key)}
  {x x' : Traced α}

/-- A program has one result and one trail. -/
theorem Evaluates.unique (h : Evaluates e p trail x) (h' : Evaluates e p trail' x') :
    trail = trail' ∧ x = x' := by
  induction h generalizing trail' with
  | done a =>
    cases h'
    exact ⟨rfl, rfl⟩
  | remark rest ih =>
    cases h' with
    | remark rest' =>
      obtain ⟨rfl, rfl⟩ := ih rest'
      exact ⟨rfl, rfl⟩
  | call own rest ihOwn ihRest =>
    cases h' with
    | call own' rest' =>
      obtain ⟨rfl, rfl⟩ := ihOwn own'
      obtain ⟨rfl, rfl⟩ := ihRest rest'
      exact ⟨rfl, rfl⟩

/-- A program is evaluated if all of its calls are. -/
theorem exists_evaluates {P : (β : Type) → Call β → Prop}
    (below : ∀ β (c : Call β), P β c → e.Legal c.path ∧
      ∃ trail, Evaluates e (e.body c) trail (e.walk β c) ∧ ∀ path ∈ trail, e.Legal path)
    (h : p.AllCalls P) :
    ∃ trail, Evaluates e p trail (p.answer e.walk) ∧ ∀ path ∈ trail, e.Legal path := by
  induction p with
  | done a => exact ⟨[], .done a, nofun⟩
  | remark remarks next ih =>
    obtain ⟨trail, rest, legal⟩ := ih h
    exact ⟨trail, rest.remark, legal⟩
  | call c next ih =>
    obtain ⟨own, inner, run, innerLegal⟩ := below _ c h.1
    obtain ⟨trail, rest, legal⟩ := ih (e.walk _ c).value (h.2 _)
    refine ⟨c.path :: inner ++ trail, run.call rest, ?_⟩
    rw [List.cons_append, List.forall_mem_cons]
    refine ⟨own, fun path hp => ?_⟩
    rcases List.mem_append.1 hp with hp | hp
    · exact innerLegal path hp
    · exact legal path hp

/-- **Every legal call is evaluated**, and only legal calls are made on the way. -/
theorem exists_evaluates_body {c : Call α} (h : e.Legal c.path) :
    ∃ trail, Evaluates e (e.body c) trail (e.walk α c) ∧ ∀ path ∈ trail, e.Legal path := by
  induction hr : e.rank c using Nat.strongRecOn generalizing α with
  | ind n ih =>
    subst hr
    rw [← Context.answer_body]
    refine exists_evaluates (fun β d hd => ⟨hd.1, ?_⟩) (Context.allCalls_body h)
    exact ih _ hd.2 hd.1 rfl

end Program

/-! ## Requests -/

namespace Context

open Program

variable {e : Context}

/-- What comes of one message for the factory. -/
def casesProgram (e : Context) (m : Message) : Program MessageCases := do
  let name ← lift m.className
  let cases ← request (.cases (e.layout.messagesPackage ++ "." ++ name) m.members [] [])
  return ⟨name, cases⟩

/-- What comes of a request, by way of the walks that it starts.  The other requests start none. -/
def program (e : Context) : Request → Program Answer
  | .usedFieldIds layer framed messages => do
    let lists ← messages.mapM fun m => request (.usage layer framed m.members [])
    return .fieldIds (idSet lists.flatten)
  | .groupClass package g => do
    let counter? ← lift (e.index.fieldFor .group g.counter)
    match counter? with
    | none => return .artifact none
    | some counter => do
      let counterName ← lift (FixBindings.className counter.name)
      let inner ← request (.repetition package (FixBindings.className counter.name) g counter
        [.group g.id])
      let accessors ← request (.accessors package g.members [.group g.id])
      let name ← lift (FixBindings.className g.name)
      return .artifact (some {
        package
        className := name
        body := .component g.id [] [counter.id]
          (unique (.field counterName counter.id :: inner :: accessors)) true })
  | .componentClass package c => do
    let accessors ← request (.accessors package c.members [.component c.id])
    let name ← lift (FixBindings.className c.name)
    return .artifact (some {
      package
      className := name
      body := .component c.id (directFields c.members) [] (unique accessors) false })
  | .messageClass package componentsPackage m => do
    let accessors ← request (.accessors componentsPackage m.members [])
    let name ← lift m.className
    return .artifact (some {
      package
      className := name
      body := .message m.name m.scenario m.msgType (unique accessors) })
  | .factory messages => do
    let cases ← (canonicalMessages messages).mapM e.casesProgram
    return .artifact (some {
      package := e.layout.messagesPackage
      className := "MessageFactory"
      body := .messageFactory (cases.map MessageCases.messageName) cases e.fallbackClass })
  | q => lift (e.answer q)

theorem answer_casesProgram (m : Message) :
    (e.casesProgram m).answer e.walk = e.messageCases m := by
  simp [casesProgram, messageCases, walk]

/-- **The program of a request gives the answer to it** if the walks that it starts do. -/
theorem answer_program (q : Request) : (e.program q).answer e.walk = e.answer q := by
  cases q with
  | usedFieldIds layer framed messages =>
    simp [program, Context.answer, Index.usedFieldIds, answer_mapM, walk]
  | groupClass package g =>
    simp only [program, Context.answer, describeGroup, answer_bind, answer_lift, map_bind]
    congr 1
    funext counter?
    cases counter? <;> simp [walk, repetitionOf]
  | componentClass package c => simp [program, Context.answer, describeComponent, walk]
  | messageClass package componentsPackage m =>
    simp [program, Context.answer, describeMessage, walk]
  | factory messages =>
    simp [program, Context.answer, describeFactory, answer_mapM, answer_casesProgram]
  | _ => exact answer_lift _ _

/-- A request starts walks from nodes that are declared. -/
def StartsDeclared (e : Context) : Request → Prop
  | .groupClass _ g => Key.group g.id ∈ e.index.keys
  | .componentClass _ c => Key.component c.id ∈ e.index.keys
  | _ => True

theorem Legal.singleton {key : Key} (h : key ∈ e.index.keys) : e.Legal [key] :=
  Legal.nil.enter h List.not_mem_nil

theorem allCalls_program {q : Request} (h : e.StartsDeclared q) :
    (e.program q).AllCalls fun _ c => e.Legal c.path := by
  cases q with
  | usedFieldIds layer framed messages =>
    exact allCalls_bind (allCalls_mapM fun m _ => allCalls_request.2 Legal.nil) fun _ => trivial
  | groupClass package g =>
    refine allCalls_bind (allCalls_lift _) fun counter? => ?_
    cases counter? with
    | none => exact trivial
    | some counter =>
      refine allCalls_bind (allCalls_lift _) fun _ => ?_
      refine allCalls_bind (allCalls_request.2 (Legal.singleton h)) fun _ => ?_
      exact allCalls_bind (allCalls_request.2 (Legal.singleton h)) fun _ => trivial
  | componentClass package c =>
    exact allCalls_bind (allCalls_request.2 (Legal.singleton h)) fun _ => trivial
  | messageClass package componentsPackage m =>
    exact allCalls_bind (allCalls_request.2 Legal.nil) fun _ => trivial
  | factory messages =>
    refine allCalls_bind (allCalls_mapM fun m _ => ?_) fun _ => trivial
    refine allCalls_bind (allCalls_lift _) fun _ => ?_
    exact allCalls_bind (allCalls_request.2 Legal.nil) fun _ => trivial
  | _ => exact trivial

end Context

namespace Repository

variable {r : Repository} {options : Options} {layer : SessionLayer}

/-- The groups and components that are declared, as nodes of the reference graph. -/
def nodes (r : Repository) : List Key :=
  r.groups.map (fun g => .group g.id) ++ r.components.map fun c => .component c.id

theorem keys_subset_nodes (r : Repository) : r.index.keys ⊆ r.nodes := by
  intro key h
  rw [Index.keys, index_groups, index_components] at h
  rcases List.mem_append.1 h with h | h
  · obtain ⟨g, hg, rfl⟩ := List.mem_map.1 h
    exact List.mem_append_left _ (List.mem_map_of_mem (distinct_groups_subset hg))
  · obtain ⟨c, hc, rfl⟩ := List.mem_map.1 h
    exact List.mem_append_right _ (List.mem_map_of_mem (distinct_components_subset hc))

/-- The classes that a description asks for start their walks from declared nodes. -/
theorem startsDeclared {q : Request} (h : q ∈ r.requests options layer) :
    (r.context options layer).StartsDeclared q := by
  have keys : r.index.keys = r.distinct.groups.map (fun g => .group g.id) ++
      r.distinct.components.map fun c => .component c.id := by
    rw [Index.keys, index_groups, index_components]
  cases q with
  | groupClass package g =>
    have declared : g ∈ r.distinct.groups := by
      simp [requests, usageRequests, fieldRequests, groupRequests, componentRequests,
        messageRequests, singleRequests] at h
      rcases h with ⟨-, h, -⟩ | ⟨-, h, -⟩
      · exact h.1
      · exact h.1
    rw [Context.StartsDeclared, context_index, keys]
    exact List.mem_append_left _ (List.mem_map_of_mem declared)
  | componentClass package c =>
    have declared : c ∈ r.distinct.components := by
      simp [requests, usageRequests, fieldRequests, groupRequests, componentRequests,
        messageRequests, singleRequests] at h
      exact describedComponents_subset _ _ _ h.1
    rw [Context.StartsDeclared, context_index, keys]
    exact List.mem_append_right _ (List.mem_map_of_mem declared)
  | _ => exact trivial

/-- **The walks return.**  A description of a repository, whose declarations may refer to each other
in circles, is made up of the answers to its requests.  The program of each request can be run to
its end, and in one way only; what comes of it is the answer to the request.  Every walk that is
called on the way is on a path of declared groups and components without repetition, which is
therefore no longer than there are different ones. -/
theorem walks_return (r : Repository) (options : Options) (layer : SessionLayer) :
    (describe options layer r).value.artifacts =
        r.classesOf options layer (r.requests options layer) ∧
      ∀ q ∈ r.requests options layer, ∃ trail,
        Program.Evaluates (r.context options layer) ((r.context options layer).program q) trail
          ((r.context options layer).answer q) ∧
        (∀ trail' x, Program.Evaluates (r.context options layer)
          ((r.context options layer).program q) trail' x →
            trail' = trail ∧ x = (r.context options layer).answer q) ∧
        ∀ path ∈ trail, path.Nodup ∧ path ⊆ r.nodes ∧ path.length ≤ r.nodes.dedup.length := by
  refine ⟨artifacts_eq_classesOf r options layer, fun q hq => ?_⟩
  obtain ⟨trail, run, legal⟩ := Program.exists_evaluates
    (fun β c h => ⟨h, Program.exists_evaluates_body h⟩)
    (Context.allCalls_program (startsDeclared hq))
  rw [Context.answer_program] at run
  refine ⟨trail, run, fun trail' x run' => run'.unique run, fun path hp => ?_⟩
  obtain ⟨nodup, declared⟩ := legal path hp
  have sub : path ⊆ r.nodes := fun key hk => keys_subset_nodes r (declared key hk)
  have distinct : path ⊆ r.nodes.dedup := fun key hk => List.mem_dedup.2 (sub hk)
  exact ⟨nodup, sub, (List.subperm_of_subset nodup distinct).length_le⟩

end Repository
end FixBindings
