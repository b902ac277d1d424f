/-!
# The first fault of a reading

A reading fails at the first part that cannot be read, and what comes after it is not looked at.
`FailsWith` says that a reading fails with a fault of some kind, and it goes through the parts of a
reading one by one: `failsWith_seq` for a part and what follows it, `failsWith_mapM` for the items
of a list.  `FirstFails` is what a list looks like that is read up to an item of some kind.
-/

set_option autoImplicit false

namespace FixBindings

variable {ε α β : Type} {p : ε → Prop}

/-- A reading succeeds. -/
def Reads (x : Except ε α) : Prop := ∃ a, x = .ok a

/-- A reading fails with a fault of some kind. -/
def FailsWith (p : ε → Prop) (x : Except ε α) : Prop := ∃ e, x = .error e ∧ p e

@[simp] theorem not_failsWith_ok (a : α) : ¬FailsWith p (.ok a : Except ε α) := by
  rintro ⟨_, ⟨⟩, _⟩

@[simp] theorem not_failsWith_pure (a : α) : ¬FailsWith p (pure a : Except ε α) :=
  not_failsWith_ok a

@[simp] theorem failsWith_error {e : ε} : FailsWith p (.error e : Except ε α) ↔ p e := by
  constructor
  · rintro ⟨_, ⟨⟩, h⟩
    exact h
  · exact fun h => ⟨e, rfl, h⟩

@[simp] theorem failsWith_throw {e : ε} : FailsWith p (throw e : Except ε α) ↔ p e :=
  failsWith_error

@[simp] theorem failsWith_map {x : Except ε α} {f : α → β} :
    FailsWith p (f <$> x) ↔ FailsWith p x := by
  cases x with
  | ok a => exact iff_of_false (not_failsWith_ok (f a)) (not_failsWith_ok a)
  | error e => exact failsWith_error.trans failsWith_error.symm

theorem failsWith_mapError {δ : Type} {g : δ → ε} {x : Except δ α} :
    FailsWith p (x.mapError g) ↔ FailsWith (fun d => p (g d)) x := by
  cases x with
  | ok a => exact iff_of_false (not_failsWith_ok a) (not_failsWith_ok a)
  | error d =>
    refine failsWith_error.trans ?_
    rw [failsWith_error]

/-- A reading succeeds or its fault is told, unless it fails with one that is not. -/
theorem reads_or_told_iff {told : ε → Bool} {x : Except ε α} :
    (Reads x ∨ ∃ e, x = .error e ∧ told e = true) ↔ ¬FailsWith (fun e => told e = false) x := by
  cases x with
  | ok a => exact iff_of_true (Or.inl ⟨a, rfl⟩) (not_failsWith_ok a)
  | error e =>
    rw [failsWith_error, Bool.not_eq_false]
    constructor
    · rintro (⟨a, ⟨⟩⟩ | ⟨_, ⟨⟩, h⟩)
      exact h
    · exact fun h => Or.inr ⟨e, rfl, h⟩

/-! ## One part after the other -/

section Sequence

variable {x : Except ε α} {f : α → Except ε β} {P : Prop}

/-- **A reading fails in its first part, or after it.** -/
theorem failsWith_bind :
    FailsWith p (x >>= f) ↔ FailsWith p x ∨ ∃ a, x = .ok a ∧ FailsWith p (f a) := by
  cases x with
  | ok a =>
    constructor
    · exact fun h => Or.inr ⟨a, rfl, h⟩
    · rintro (h | ⟨_, ⟨⟩, h⟩)
      · exact absurd h (not_failsWith_ok a)
      · exact h
  | error e =>
    constructor
    · exact fun h => Or.inl (failsWith_error.2 (failsWith_error.1 h))
    · rintro (h | ⟨_, ⟨⟩, _⟩)
      exact failsWith_error.2 (failsWith_error.1 h)

/-- Whether a reading fails after its first part often does not depend on what was read there. -/
theorem failsWith_seq (h : ∀ a, x = .ok a → (FailsWith p (f a) ↔ P)) :
    FailsWith p (x >>= f) ↔ FailsWith p x ∨ Reads x ∧ P := by
  rw [failsWith_bind]
  refine or_congr Iff.rfl ⟨?_, ?_⟩
  · rintro ⟨a, ha, fails⟩
    exact ⟨⟨a, ha⟩, (h a ha).1 fails⟩
  · rintro ⟨⟨a, ha⟩, hP⟩
    exact ⟨a, ha, (h a ha).2 hP⟩

theorem failsWith_seq_of_not (first : ¬FailsWith p x)
    (h : ∀ a, x = .ok a → (FailsWith p (f a) ↔ P)) :
    FailsWith p (x >>= f) ↔ Reads x ∧ P :=
  (failsWith_seq h).trans (or_iff_right first)

theorem not_failsWith_seq (first : ¬FailsWith p x) (h : ∀ a, ¬FailsWith p (f a)) :
    ¬FailsWith p (x >>= f) := by
  rw [failsWith_bind]
  rintro (fails | ⟨a, -, fails⟩)
  · exact first fails
  · exact h a fails

end Sequence

/-! ## Lists -/

section Lists

variable {read : α → Except ε β} {xs : List α} {bad : α → Prop}

/-- A list is read up to an item of some kind. -/
def FirstFails (read : α → Except ε β) (bad : α → Prop) (xs : List α) : Prop :=
  ∃ before x after, xs = before ++ x :: after ∧ (∀ y ∈ before, Reads (read y)) ∧ bad x

@[simp] theorem not_firstFails_nil : ¬FirstFails read bad [] := by
  rintro ⟨before, x, after, h, -⟩
  simp at h

theorem not_firstFails (h : ∀ x, ¬bad x) : ¬FirstFails read bad xs := by
  rintro ⟨before, x, after, -, -, hx⟩
  exact h x hx

theorem firstFails_cons {x : α} : FirstFails read bad (x :: xs) ↔
    bad x ∨ Reads (read x) ∧ FirstFails read bad xs := by
  constructor
  · rintro ⟨before, y, after, split, reads, hy⟩
    cases before with
    | nil =>
      obtain ⟨rfl, rfl⟩ := List.cons.inj split
      exact Or.inl hy
    | cons z before =>
      obtain ⟨rfl, rfl⟩ := List.cons.inj split
      obtain ⟨first, reads⟩ := List.forall_mem_cons.1 reads
      exact Or.inr ⟨first, before, y, after, rfl, reads, hy⟩
  · rintro (hx | ⟨first, before, y, after, rfl, reads, hy⟩)
    · exact ⟨[], x, xs, rfl, nofun, hx⟩
    · exact ⟨x :: before, y, after, rfl, List.forall_mem_cons.2 ⟨first, reads⟩, hy⟩

theorem FirstFails.congr {other : α → Prop} (h : ∀ x, bad x ↔ other x) :
    FirstFails read bad xs ↔ FirstFails read other xs := by
  rw [show bad = other from funext fun x => propext (h x)]

/-- **The items of a list are not read exactly if they are read up to one that is not.** -/
theorem failsWith_mapM : FailsWith p (xs.mapM read) ↔
    FirstFails read (fun x => FailsWith p (read x)) xs := by
  induction xs with
  | nil => exact iff_of_false (not_failsWith_pure _) not_firstFails_nil
  | cons x xs ih =>
    rw [List.mapM_cons, firstFails_cons]
    refine failsWith_seq fun b _ => ?_
    rw [failsWith_bind, ih]
    simp

theorem not_failsWith_mapM (h : ∀ x, ¬FailsWith p (read x)) : ¬FailsWith p (xs.mapM read) :=
  fun fails => not_firstFails h (failsWith_mapM.1 fails)

end Lists

end FixBindings
