import FixBindings.Schema.Diagnostic

/-!
# Traced results that nothing goes wrong in

A `Traced` result fails where one of its remarks is a fault, and `Traced.Clean` says that none is.
Cleanness is a property of the parts: `clean_bind` takes a result apart, `clean_mapM` and
`clean_foldlM` take a traversal apart, and `run_eq_ok_iff` says that the clean results are the
ones whose run succeeds, and with which value.  The value itself never depends on the remarks, so
`value_mapM` and `value_foldlM` read a traversal as an ordinary `map` or `foldl`.

A result that makes no remark at all is `Traced.Silent`.  The same lemmas take silence apart, and
`Clean.ledger_eq_nil_iff` says that among the clean results the silent ones leave no diagnostic.
-/

set_option autoImplicit false

namespace FixBindings
namespace Traced

variable {α β σ : Type}

/-! ## Values and remarks of traversals -/

@[simp] theorem remarks_ofExcept_ok (default a : α) : (ofExcept default (.ok a)).remarks = [] := rfl

@[simp] theorem value_mapM (f : α → Traced β) (xs : List α) :
    (xs.mapM f).value = xs.map fun x => (f x).value := by
  induction xs with
  | nil => rfl
  | cons x xs ih => simp [List.mapM_cons, ih]

@[simp] theorem value_foldlM (f : σ → α → Traced σ) (xs : List α) (s : σ) :
    (xs.foldlM f s).value = xs.foldl (fun s x => (f s x).value) s := by
  induction xs generalizing s with
  | nil => rfl
  | cons x xs ih => simp [List.foldlM_cons, ih]

/-! ## Clean results -/

/-- No remark on the way to a value is a fault. -/
def Clean (x : Traced α) : Prop := ∀ f, Remark.fault f ∉ x.remarks

@[simp] theorem clean_pure (a : α) : (pure a : Traced α).Clean := by
  intro f h
  exact absurd h (by simp)

@[simp] theorem clean_bind {x : Traced α} {f : α → Traced β} :
    (x >>= f).Clean ↔ x.Clean ∧ (f x.value).Clean := by
  simp only [Clean, remarks_bind, List.mem_append, not_or]
  exact forall_and

@[simp] theorem clean_map {f : α → β} {x : Traced α} : (f <$> x).Clean ↔ x.Clean := by
  rw [Clean, remarks_map, Clean]

@[simp] theorem clean_report (d : Diagnostic) : (report d).Clean := by
  intro f h
  exact absurd h (by simp)

@[simp] theorem clean_reportIf (condition : Bool) (d : Diagnostic) :
    (reportIf condition d).Clean := by
  intro f h
  cases condition <;> simp [reportIf] at h

@[simp] theorem clean_ofExcept_ok (default a : α) : (ofExcept default (.ok a)).Clean := by
  intro f h
  exact absurd h (by simp)

@[simp] theorem clean_mapM {f : α → Traced β} {xs : List α} :
    (xs.mapM f).Clean ↔ ∀ x ∈ xs, (f x).Clean := by
  induction xs with
  | nil => simp
  | cons x xs ih => simp [List.mapM_cons, ih]

theorem clean_foldlM {f : σ → α → Traced σ} {xs : List α} (h : ∀ s, ∀ x ∈ xs, (f s x).Clean)
    (s : σ) : (xs.foldlM f s).Clean := by
  induction xs generalizing s with
  | nil => simp
  | cons x xs ih =>
    rw [List.foldlM_cons, clean_bind]
    exact ⟨h s x List.mem_cons_self, ih (fun s y hy => h s y (List.mem_cons_of_mem x hy)) _⟩

/-! ## Runs -/

theorem enter_snd_eq_none_iff (ledger : Ledger) (remarks : List Remark) :
    (enter ledger remarks).2 = none ↔ ∀ f, Remark.fault f ∉ remarks := by
  induction remarks generalizing ledger with
  | nil => simp [enter]
  | cons remark remarks ih =>
    cases remark with
    | diagnostic d => rw [enter, ih]; simp
    | fault f =>
      simp only [enter, List.mem_cons, not_or]
      exact ⟨nofun, fun h => absurd rfl (h f).1⟩

/-- **The run of a result succeeds exactly when the result is clean**, whatever is in the ledger
already, and the outcome is then its value. -/
theorem run_eq_ok_iff {x : Traced α} {ledger : Ledger} {a : α} :
    (x.run ledger).1 = .ok a ↔ x.Clean ∧ x.value = a := by
  rw [Clean, ← enter_snd_eq_none_iff ledger, run]
  rcases h : enter ledger x.remarks with ⟨after, _ | f⟩
  · simp
  · simp

theorem Clean.run {x : Traced α} (h : x.Clean) (ledger : Ledger) :
    (x.run ledger).1 = .ok x.value :=
  run_eq_ok_iff.2 ⟨h, rfl⟩

/-! ## Silent results -/

/-- No remark is made on the way to a value. -/
def Silent (x : Traced α) : Prop := x.remarks = []

/-- Where there is no remark there is no fault. -/
theorem Silent.clean {x : Traced α} (h : x.Silent) : x.Clean := by
  intro f hf
  rw [h] at hf
  exact absurd hf List.not_mem_nil

@[simp] theorem silent_pure (a : α) : (pure a : Traced α).Silent := rfl

@[simp] theorem silent_bind {x : Traced α} {f : α → Traced β} :
    (x >>= f).Silent ↔ x.Silent ∧ (f x.value).Silent := List.append_eq_nil_iff

@[simp] theorem silent_map {f : α → β} {x : Traced α} : (f <$> x).Silent ↔ x.Silent := by
  rw [Silent, remarks_map, Silent]

@[simp] theorem not_silent_report (d : Diagnostic) : ¬(report d).Silent := List.cons_ne_nil _ _

@[simp] theorem silent_reportIf {condition : Bool} {d : Diagnostic} :
    (reportIf condition d).Silent ↔ condition = false := by
  cases condition <;> simp [Silent, reportIf]

@[simp] theorem silent_ofExcept_ok (default a : α) : (ofExcept default (.ok a)).Silent := rfl

@[simp] theorem silent_mapM {f : α → Traced β} {xs : List α} :
    (xs.mapM f).Silent ↔ ∀ x ∈ xs, (f x).Silent := by
  induction xs with
  | nil => simp
  | cons x xs ih => simp [List.mapM_cons, ih]

theorem silent_foldlM {f : σ → α → Traced σ} {xs : List α} (h : ∀ s, ∀ x ∈ xs, (f s x).Silent)
    (s : σ) : (xs.foldlM f s).Silent := by
  induction xs generalizing s with
  | nil => simp
  | cons x xs ih =>
    rw [List.foldlM_cons, silent_bind]
    exact ⟨h s x List.mem_cons_self, ih (fun s y hy => h s y (List.mem_cons_of_mem x hy)) _⟩

theorem subset_add (ledger : Ledger) (text : String) : ledger ⊆ ledger.add text := by
  rw [Ledger.add]
  split
  · exact List.Subset.refl _
  · exact List.subset_append_left _ _

theorem mem_add (ledger : Ledger) (text : String) : text ∈ ledger.add text := by
  rw [Ledger.add]
  split
  · assumption
  · exact List.mem_append_right _ (List.mem_singleton_self text)

/-- What is in the ledger stays there. -/
theorem subset_enter (ledger : Ledger) (remarks : List Remark) :
    ledger ⊆ (enter ledger remarks).1 := by
  induction remarks generalizing ledger with
  | nil => exact List.Subset.refl _
  | cons remark remarks ih =>
    cases remark with
    | diagnostic d => exact List.Subset.trans (subset_add ledger d.message) (ih _)
    | fault f => exact List.Subset.refl _

theorem run_snd (x : Traced α) (ledger : Ledger) :
    (x.run ledger).2 = (enter ledger x.remarks).1 := by
  rw [run]
  rcases enter ledger x.remarks with ⟨after, _ | f⟩ <;> rfl

/-- **The run of a clean result finds nothing to report exactly when the result is silent.** -/
theorem Clean.ledger_eq_nil_iff {x : Traced α} (h : x.Clean) : (x.run []).2 = [] ↔ x.Silent := by
  rw [run_snd, Silent]
  cases hx : x.remarks with
  | nil => simp [enter]
  | cons remark remarks =>
    cases remark with
    | fault f => exact absurd (hx ▸ List.mem_cons_self) (h f)
    | diagnostic d =>
      have noted : d.message ∈ (enter [] (.diagnostic d :: remarks)).1 :=
        subset_enter _ remarks (mem_add [] d.message)
      exact iff_of_false (List.ne_nil_of_mem noted) (List.cons_ne_nil _ _)

end Traced
end FixBindings
