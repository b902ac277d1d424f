import FixBindings.Proofs.Trace
import Mathlib.Data.List.Infix
import Mathlib.Data.List.Nodup

/-!
# What a run reports

A run of a `Traced` result enters its diagnostics into a ledger, each text once, up to the first
fault.  `Traced.reported` is what a run has to say on its own account, and `ledger_run` says that a
run adds just that to whatever ledger it is given: it reads the ledger only to leave out what is
there already.  So the outcome is the same for every ledger (`outcome_run`), the ledger grows at its
end (`prefix_run`), and what it holds afterwards is what it held before and what is reported
(`mem_ledger_run`).

That remarks are collected first and entered afterwards makes no difference to entering each one
where it is made: `run_bind` says that a run hands the ledger on from step to step.
-/

set_option autoImplicit false

namespace FixBindings

/-! ## Ledgers -/

namespace Ledger

variable {ledger : Ledger} {texts : List String} {text t : String}

/-- Adds texts one after another. -/
def addAll (ledger : Ledger) (texts : List String) : Ledger := texts.foldl add ledger

theorem mem_add_iff : t ∈ ledger.add text ↔ t ∈ ledger ∨ t = text := by
  rw [add]
  split
  · rename_i there
    exact ⟨Or.inl, fun h => h.elim id fun same => same ▸ there⟩
  · rw [List.mem_append, List.mem_singleton]

theorem prefix_add (ledger : Ledger) (text : String) : ledger <+: ledger.add text := by
  rw [add]
  split
  · exact List.prefix_rfl
  · exact List.prefix_append _ _

theorem nodup_add (h : ledger.Nodup) (text : String) : (ledger.add text).Nodup := by
  rw [add]
  split
  · exact h
  · rename_i absent
    rw [← List.concat_eq_append]
    exact h.concat absent

theorem addAll_append (ledger : Ledger) (first second : List String) :
    ledger.addAll (first ++ second) = (ledger.addAll first).addAll second := List.foldl_append

theorem mem_addAll : t ∈ ledger.addAll texts ↔ t ∈ ledger ∨ t ∈ texts := by
  induction texts generalizing ledger with
  | nil => simp [addAll]
  | cons text rest ih =>
    rw [addAll, List.foldl_cons, ← addAll, ih, mem_add_iff, List.mem_cons, or_assoc]

theorem prefix_addAll (ledger : Ledger) (texts : List String) : ledger <+: ledger.addAll texts := by
  induction texts generalizing ledger with
  | nil => exact List.prefix_rfl
  | cons text rest ih => exact (prefix_add ledger text).trans (ih _)

theorem nodup_addAll (h : ledger.Nodup) (texts : List String) : (ledger.addAll texts).Nodup := by
  induction texts generalizing ledger with
  | nil => exact h
  | cons text rest ih => exact ih (nodup_add h text)

/-- Texts that differ from each other and from those in the ledger are added as they are. -/
theorem addAll_of_nodup (h : (ledger ++ texts).Nodup) : ledger.addAll texts = ledger ++ texts := by
  induction texts generalizing ledger with
  | nil => exact (List.append_nil _).symm
  | cons text rest ih =>
    have absent : text ∉ ledger := fun there => (List.nodup_append.1 h).2.2 text there text
      List.mem_cons_self rfl
    have rest_nodup : (ledger ++ [text] ++ rest).Nodup := by
      rwa [List.append_assoc, List.singleton_append]
    rw [addAll, List.foldl_cons, ← addAll, add, if_neg absent, ih rest_nodup, List.append_assoc,
      List.singleton_append]

end Ledger

/-! ## Runs -/

namespace Traced

variable {α β : Type}

/-- The texts of the diagnostics before the first fault. -/
def reportedBy : List Remark → List String
  | [] => []
  | .diagnostic d :: rest => d.message :: reportedBy rest
  | .fault _ :: _ => []

/-- What the run of a result reports, given an empty ledger or any other. -/
def reported (x : Traced α) : List String := reportedBy x.remarks

theorem enter_fst (ledger : Ledger) (remarks : List Remark) :
    (enter ledger remarks).1 = ledger.addAll (reportedBy remarks) := by
  induction remarks generalizing ledger with
  | nil => rfl
  | cons remark rest ih =>
    cases remark with
    | diagnostic d => exact ih _
    | fault f => rfl

theorem enter_snd (ledger ledger' : Ledger) (remarks : List Remark) :
    (enter ledger remarks).2 = (enter ledger' remarks).2 := by
  induction remarks generalizing ledger ledger' with
  | nil => rfl
  | cons remark rest ih =>
    cases remark with
    | diagnostic d => exact ih _ _
    | fault f => rfl

/-- **A run adds to the ledger what it reports**, and nothing that it reports depends on the
ledger. -/
theorem ledger_run (x : Traced α) (ledger : Ledger) :
    (x.run ledger).2 = ledger.addAll x.reported := by
  rw [run_snd, enter_fst, reported]

/-- **The outcome of a run does not depend on the ledger.** -/
theorem outcome_run (x : Traced α) (ledger ledger' : Ledger) :
    (x.run ledger).1 = (x.run ledger').1 := by
  have same := enter_snd ledger ledger' x.remarks
  rw [run, run]
  rcases h : enter ledger x.remarks with ⟨after, _ | f⟩
  · rcases h' : enter ledger' x.remarks with ⟨after', _ | f'⟩
    · rfl
    · simp [h, h'] at same
  · rcases h' : enter ledger' x.remarks with ⟨after', _ | f'⟩
    · simp [h, h'] at same
    · simpa [h, h'] using same

theorem mem_ledger_run {x : Traced α} {ledger : Ledger} {text : String} :
    text ∈ (x.run ledger).2 ↔ text ∈ ledger ∨ text ∈ x.reported := by
  rw [ledger_run, Ledger.mem_addAll]

theorem prefix_run (x : Traced α) (ledger : Ledger) : ledger <+: (x.run ledger).2 := by
  rw [ledger_run]
  exact Ledger.prefix_addAll _ _

theorem nodup_run {ledger : Ledger} (h : ledger.Nodup) (x : Traced α) :
    (x.run ledger).2.Nodup := by
  rw [ledger_run]
  exact Ledger.nodup_addAll h _

theorem enter_append (ledger : Ledger) (first second : List Remark) :
    enter ledger (first ++ second) =
      match enter ledger first with
      | (ledger, none) => enter ledger second
      | (ledger, some f) => (ledger, some f) := by
  induction first generalizing ledger with
  | nil => rfl
  | cons remark rest ih =>
    cases remark with
    | diagnostic d => exact ih _
    | fault f => rfl

/-- **A run hands the ledger on**: the second step runs with the ledger that the first one leaves,
and not at all after a fault. -/
theorem run_bind (x : Traced α) (f : α → Traced β) (ledger : Ledger) :
    (x >>= f).run ledger =
      match x.run ledger with
      | (.ok a, ledger) => (f a).run ledger
      | (.error fault, ledger) => (.error fault, ledger) := by
  rw [run, run, remarks_bind, enter_append]
  rcases enter ledger x.remarks with ⟨after, _ | fault⟩
  · rfl
  · rfl

/-! ## Clean results -/

/-- A clean result reports all of its diagnostics. -/
theorem Clean.mem_reported {x : Traced α} (h : x.Clean) {text : String} :
    text ∈ x.reported ↔ ∃ d, Remark.diagnostic d ∈ x.remarks ∧ d.message = text := by
  rw [Clean] at h
  rw [reported]
  generalize x.remarks = remarks at h
  induction remarks with
  | nil => simp [reportedBy]
  | cons remark rest ih =>
    have rest_clean : ∀ f, Remark.fault f ∉ rest := fun f hf => h f (List.mem_cons_of_mem _ hf)
    cases remark with
    | fault f => exact absurd List.mem_cons_self (h f)
    | diagnostic d => simp [reportedBy, ih rest_clean, eq_comm]

/-- What comes after a clean result is reported after it. -/
theorem Clean.reportedBy_append {x : Traced α} (h : x.Clean) (later : List Remark) :
    reportedBy (x.remarks ++ later) = x.reported ++ reportedBy later := by
  rw [Clean] at h
  rw [reported]
  generalize x.remarks = remarks at h
  induction remarks with
  | nil => rfl
  | cons remark rest ih =>
    have rest_clean : ∀ f, Remark.fault f ∉ rest := fun f hf => h f (List.mem_cons_of_mem _ hf)
    cases remark with
    | fault f => exact absurd List.mem_cons_self (h f)
    | diagnostic d => exact congrArg (List.cons d.message) (ih rest_clean)

theorem reportedBy_flatMap {ι : Type} {f : ι → Traced α} {xs : List ι}
    (h : ∀ x ∈ xs, (f x).Clean) :
    reportedBy (xs.flatMap fun x => (f x).remarks) = xs.flatMap fun x => (f x).reported := by
  induction xs with
  | nil => rfl
  | cons x rest ih =>
    rw [List.flatMap_cons, List.flatMap_cons, (h x List.mem_cons_self).reportedBy_append,
      ih fun y hy => h y (List.mem_cons_of_mem x hy)]

/-- The remarks of a traversal are those of its steps. -/
theorem remarks_mapM (f : α → Traced β) (xs : List α) :
    (xs.mapM f).remarks = xs.flatMap fun x => (f x).remarks := by
  induction xs with
  | nil => rfl
  | cons x rest ih => simp [List.mapM_cons, ih]

end Traced
end FixBindings
