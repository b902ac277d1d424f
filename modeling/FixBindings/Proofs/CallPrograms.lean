import FixBindings.Artifact.Basic
import FixBindings.Schema.Index
import FixBindings.Schema.SessionLayer

/-!
# Programs that call walks

The walks over a schema call themselves and each other at the groups and components that members
refer to.  A `Call` is a walk with what it is given, and a `Program` is a computation that makes
remarks and asks for the results of calls, one after another; nothing in it says that a call has
a result.

There are two ways to read a program without running its calls.  `Program.answer` is what comes of
it if each call has some given result, and `Program.AllCalls` says that each call that it may make,
whatever comes of those before, has a property.  Both go along with `bind` and with traversals.
-/

set_option autoImplicit false

namespace FixBindings

/-- A walk and what it is given, by the type of what comes of it. -/
inductive Call : Type → Type where
  /-- The ids of the fields that members lead to. -/
  | usage (layer : SessionLayer) (framed : Bool) (members : List Member) (path : List Key) :
    Call (List Int)
  /-- The order of the fields of one repetition. -/
  | order (members : List Member) (path : List Key) : Call (List Int)
  /-- The accessors of members. -/
  | accessors (package : String) (members : List Member) (path : List Key) : Call (List Accessor)
  /-- The inner class for one repetition of a group. -/
  | repetition (package : String) (name : Traced String) (g : Group) (counter : Field)
    (path : List Key) : Call Accessor
  /-- The cases of the groups among members, after the cases so far. -/
  | cases (parent : String) (members : List Member) (path : List Key)
    (cases : List CounterCase) : Call (List CounterCase)

/-- The path that a walk is on. -/
def Call.path {α : Type} : Call α → List Key
  | usage _ _ _ path => path
  | order _ path => path
  | accessors _ _ path => path
  | repetition _ _ _ _ path => path
  | cases _ _ path _ => path

/-- The inner class of a group asks for its order and its accessors on the path that it is on, and
so comes above these. -/
def Call.weight {α : Type} : Call α → Nat
  | repetition .. => 1
  | _ => 0

theorem Call.weight_le {α : Type} (c : Call α) : c.weight ≤ 1 := by
  cases c <;> simp [weight]

/-! ## Programs -/

/-- A computation that makes remarks and calls walks. -/
inductive Program (α : Type) : Type 1 where
  | done (a : α)
  | remark (remarks : List Remark) (next : Program α)
  | call {β : Type} (c : Call β) (next : β → Program α)

namespace Program

variable {α β : Type}

/-- One program after another. -/
def bind : Program α → (α → Program β) → Program β
  | done a, f => f a
  | remark remarks next, f => remark remarks (next.bind f)
  | call c next, f => call c fun x => (next x).bind f

instance : Monad Program where
  pure := done
  bind := bind

instance : LawfulMonad Program :=
  LawfulMonad.mk' Program
    (fun p => by
      induction p with
      | done a => rfl
      | remark remarks next ih => exact congrArg (remark remarks) ih
      | call c next ih => exact congrArg (call c) (funext ih))
    (fun _ _ => rfl)
    (fun p f g => by
      induction p with
      | done a => rfl
      | remark remarks next ih => exact congrArg (remark remarks) ih
      | call c next ih => exact congrArg (call c) (funext ih))

/-- A computation without calls. -/
def lift (x : Traced α) : Program α := remark x.remarks (done x.value)

/-- The result of a call. -/
def request (c : Call α) : Program α := call c done

/-- What comes of a program if the calls have some given results. -/
def answer (walk : (β : Type) → Call β → Traced β) : Program α → Traced α
  | done a => pure a
  | remark remarks next =>
    ⟨(next.answer walk).value, remarks ++ (next.answer walk).remarks⟩
  | call c next => walk _ c >>= fun x => (next x).answer walk

/-- Every call that a program may make, whatever comes of the calls before, has a property. -/
def AllCalls (P : (β : Type) → Call β → Prop) : Program α → Prop
  | done _ => True
  | remark _ next => next.AllCalls P
  | call c next => P _ c ∧ ∀ x, (next x).AllCalls P

/-! ### Results -/

section Answers

variable (walk : (β : Type) → Call β → Traced β)

@[simp] theorem answer_pure (a : α) : (pure a : Program α).answer walk = pure a := rfl

@[simp] theorem answer_bind (p : Program α) (f : α → Program β) :
    (p >>= f).answer walk = p.answer walk >>= fun a => (f a).answer walk := by
  induction p with
  | done a => exact (pure_bind a fun a => (f a).answer walk).symm
  | remark remarks next ih =>
    show Traced.mk ((next >>= f).answer walk).value
      (remarks ++ ((next >>= f).answer walk).remarks) = _
    rw [ih]
    simp [answer, Bind.bind, List.append_assoc]
  | call c next ih =>
    show (walk _ c >>= fun x => ((next x) >>= f).answer walk) = _
    simp only [ih, answer, bind_assoc]

@[simp] theorem answer_lift (x : Traced α) : (lift x).answer walk = x := by
  simp [lift, answer]

@[simp] theorem answer_request (c : Call α) : (request c).answer walk = walk α c := by
  show (walk α c >>= fun x => pure x) = _
  exact bind_pure _

@[simp] theorem answer_map (f : α → β) (p : Program α) :
    (f <$> p).answer walk = f <$> p.answer walk := by
  rw [map_eq_pure_bind, map_eq_pure_bind, answer_bind]
  rfl

theorem answer_mapM (f : α → Program β) (xs : List α) :
    (xs.mapM f).answer walk = xs.mapM fun x => (f x).answer walk := by
  induction xs with
  | nil => rfl
  | cons x rest ih => simp [List.mapM_cons, ih]

theorem answer_foldlM {σ : Type} (f : σ → α → Program σ) (xs : List α) (s : σ) :
    (xs.foldlM f s).answer walk = xs.foldlM (fun s x => (f s x).answer walk) s := by
  induction xs generalizing s with
  | nil => rfl
  | cons x rest ih => simp [List.foldlM_cons, ih]

end Answers

/-- A traversal that goes member by member is a concatenation over the members. -/
theorem eq_flatten_mapM {own : α → Traced (List β)} {f : List α → Traced (List β)}
    (nil : f [] = pure [])
    (cons : ∀ x rest, f (x :: rest) = do
      let mine ← own x
      let others ← f rest
      return mine ++ others)
    (xs : List α) : f xs = List.flatten <$> xs.mapM own := by
  induction xs with
  | nil => rw [nil, List.mapM_nil, map_pure, List.flatten_nil]
  | cons x rest ih =>
    rw [cons, ih, List.mapM_cons]
    simp

/-! ### Calls -/

section Calls

variable {P : (β : Type) → Call β → Prop}

@[simp] theorem allCalls_lift (x : Traced α) : (lift x).AllCalls P := trivial

/-- What follows a computation without calls goes on with its value. -/
theorem allCalls_lift_bind {x : Traced α} {f : α → Program β} :
    (lift x >>= f).AllCalls P ↔ (f x.value).AllCalls P := Iff.rfl

@[simp] theorem allCalls_request {c : Call α} : (request c).AllCalls P ↔ P α c :=
  ⟨fun h => h.1, fun h => ⟨h, fun _ => trivial⟩⟩

theorem allCalls_bind {p : Program α} {f : α → Program β} (first : p.AllCalls P)
    (next : ∀ a, (f a).AllCalls P) : (p >>= f).AllCalls P := by
  induction p with
  | done a => exact next a
  | remark remarks rest ih => exact ih first
  | call c rest ih => exact ⟨first.1, fun x => ih x (first.2 x)⟩

theorem allCalls_map {f : α → β} {p : Program α} (h : p.AllCalls P) : (f <$> p).AllCalls P := by
  rw [map_eq_pure_bind]
  exact allCalls_bind h fun _ => trivial

theorem allCalls_mapM {f : α → Program β} {xs : List α} (h : ∀ x ∈ xs, (f x).AllCalls P) :
    (xs.mapM f).AllCalls P := by
  induction xs with
  | nil => trivial
  | cons x rest ih =>
    obtain ⟨first, others⟩ := List.forall_mem_cons.1 h
    rw [List.mapM_cons]
    exact allCalls_bind first fun _ => allCalls_bind (ih others) fun _ => trivial

theorem allCalls_foldlM {σ : Type} {f : σ → α → Program σ} {xs : List α}
    (h : ∀ s, ∀ x ∈ xs, (f s x).AllCalls P) (s : σ) : (xs.foldlM f s).AllCalls P := by
  induction xs generalizing s with
  | nil => trivial
  | cons x rest ih =>
    rw [List.foldlM_cons]
    exact allCalls_bind (h s x List.mem_cons_self) fun s =>
      ih (fun s y hy => h s y (List.mem_cons_of_mem x hy)) s

end Calls

end Program

end FixBindings
