import FixBindings.Java.Source
import FixBindings.Proofs.ReferenceClosure

/-!
# Inner classes and their orders

An inner class for the repetitions of a group comes from two walks over the members of the group:
`Context.repetitionOrder` lists the fields of a repetition, and `Context.accessorsOf` makes the
accessors.  The walks do not skip the same things.  The order has every field that is referred to,
declared or not, and what the standard header holds, while a field has an accessor only if it is
declared, and a group only if it is off the path.  So the order may list more than the accessors
show, but never less: `slotId_mem_order` says so along both walks at once, since they inline the
same components on the same path.

`Accessor.Coherent` puts together what makes an inner class usable, and `inner_classes_coherent`
says that every inner class of a repository has it.  An order that ends in a sentinel is not empty,
so every class has a source text (`Java.exists_render`).
-/

set_option autoImplicit false

namespace FixBindings

/-! ## Coherence -/

namespace Accessor

/-- The field that an accessor stands for in the order of a repetition: the field itself, or the
counter of an inner class. -/
def slotId? : Accessor → Option Int
  | .field _ id => some id
  | .component _ _ => none
  | .group _ counter _ _ _ => some counter

/-- The parts of an inner class agree. -/
structure Coherent (delimiter : Int) (order : List Int) (accessors : List Accessor) : Prop where
  ends : order.getLast? = some orderEnd
  begins : order.head? = some delimiter
  /-- What the class gives access to has its place in front of the end of the order. -/
  listed : ∀ x ∈ accessors, ∀ id ∈ x.slotId?, id ∈ order.dropLast
  /-- No two accessors are of one kind and have one name. -/
  apart : accessors.Pairwise fun x y => sameSlot x y = false

theorem Coherent.order_ne_nil {delimiter : Int} {order : List Int} {accessors : List Accessor}
    (h : Coherent delimiter order accessors) : order ≠ [] := by
  intro empty
  have ends := h.ends
  rw [empty] at ends
  exact absurd ends nofun

end Accessor

namespace Context

variable {e : Context} {package : String} {members sub : List Member} {path : List Key}
  {x : Accessor} {id : Int}

theorem repetitionOrder_subset {index : Index} (h : sub ⊆ members) (path : List Key) :
    (repetitionOrder index sub path).value ⊆ (repetitionOrder index members path).value := by
  intro n hn
  rw [value_repetitionOrder, List.mem_flatMap] at hn ⊢
  obtain ⟨m, hm, hn⟩ := hn
  exact ⟨m, h hm, hn⟩

/-- **What has an accessor has its place in the order** of the same members on the same path. -/
theorem slotId_mem_order (hx : x ∈ (e.accessorsOf package members path).value)
    (hid : id ∈ x.slotId?) : id ∈ (repetitionOrder e.index members path).value := by
  induction path using e.index.walk_induction generalizing members with
  | step path ih =>
    obtain ⟨m, hm, hx⟩ := mem_accessorsOf.1 hx
    suffices own : id ∈ (ownOrder e.index path m).value by
      rw [value_repetitionOrder]
      exact List.mem_flatMap.2 ⟨m, hm, own⟩
    -- the counter of a group is looked up by the id that stands for the group in the order
    have counts {g : Group} {counter : Field} (hc : e.index.field? g.counter = some counter) :
        counter.id = g.counter := by simpa using List.find?_some hc
    cases hx with
    | @field n f hf =>
      obtain rfl : f.id = id := Option.some.inj hid
      obtain rfl : f.id = n := by simpa using List.find?_some hf
      exact List.mem_singleton_self _
    | groupClass => exact absurd hid (Option.not_mem_none _)
    | @counter n g counter hg _ hc =>
      obtain rfl : counter.id = id := Option.some.inj hid
      simp [ownOrder, hg, counts hc]
    | @unit n g counter hg _ hc =>
      obtain rfl : counter.id = id := Option.some.inj hid
      simp [ownOrder, hg, counts hc]
    | componentClass => exact absurd hid (Option.not_mem_none _)
    | @beside n c _ hc _ fresh hx =>
      have inner := ih _ (Index.component_mem_keys hc) fresh hx
      simp only [ownOrder, hc, fresh, if_false]
      exact repetitionOrder_subset (List.filter_subset_self c.members) _ inner

/-- **The inner class of a group is coherent**, wherever a walk meets the group. -/
theorem coherent_of_describes {name : String} {counter delimiter : Int} {order : List Int}
    {accessors : List Accessor}
    (h : e.Describes package (.group name counter delimiter order accessors)) :
    Accessor.Coherent delimiter order accessors := by
  cases h with
  | @unit _ g _ path =>
    refine ⟨List.getLast?_concat .., ?_, fun x hx id hid => ?_, pairwise_firstOf _ _⟩
    · cases (repetitionOrder e.index g.members path).value with
      | nil => rfl
      | cons first rest => rfl
    · rw [List.dropLast_concat]
      exact slotId_mem_order (unique_subset _ hx) hid

end Context

/-! ## Source texts -/

namespace Java

theorem areOrdered_iff {as : List Accessor} : areOrdered as ↔ ∀ a ∈ as, isOrdered a := by
  induction as with
  | nil => simp [areOrdered]
  | cons a rest ih => rw [areOrdered, Bool.and_eq_true, ih, List.forall_mem_cons]

/-- Every inner class among accessors, at any depth, has an order of its fields. -/
def HaveOrders (as : List Accessor) : Prop :=
  ∀ name counter delimiter order inner,
    (Accessor.group name counter delimiter order inner).Within as → order ≠ []

theorem isOrdered_of_haveOrders : (x : Accessor) → HaveOrders [x] → isOrdered x
  | .field _ _, _ => rfl
  | .component _ _, _ => rfl
  | .group name counter delimiter order inner, h => by
    have this_order : order ≠ [] := h _ _ _ _ _ (.here (List.mem_singleton_self _))
    rw [isOrdered, Bool.and_eq_true, areOrdered_iff]
    refine ⟨by simpa using this_order, fun y hy => isOrdered_of_haveOrders y ?_⟩
    intro _ _ _ _ _ within
    exact h _ _ _ _ _ (.inside (List.mem_singleton_self _) (within.trans (.here hy)))

/-- A class of which something is known has a source text if its inner classes have orders. -/
theorem exists_render {a : Artifact} (known : (sourceLines? a).isSome)
    (orders : HaveOrders a.accessors) : ∃ source, render a = .ok source := by
  obtain ⟨lines, hlines⟩ := Option.isSome_iff_exists.1 known
  refine ⟨joinLines lines, ?_⟩
  rw [render, hlines]
  refine if_pos (areOrdered_iff.2 fun x hx => isOrdered_of_haveOrders x ?_)
  exact fun _ _ _ _ _ within => orders _ _ _ _ _ (within.trans (.here hx))

end Java

namespace Repository

variable {r : Repository} {options : Options} {layer : SessionLayer} {a : Artifact}

/-- Every inner class of a class of the repository is coherent. -/
theorem Emits.coherent (h : r.Emits options layer a) {name : String} {counter delimiter : Int}
    {order : List Int} {inner : List Accessor}
    (hx : (Accessor.group name counter delimiter order inner).Within a.accessors) :
    Accessor.Coherent delimiter order inner :=
  Context.coherent_of_describes (h.describes hx)

theorem Emits.haveOrders (h : r.Emits options layer a) : Java.HaveOrders a.accessors :=
  fun _ _ _ _ _ hx => (h.coherent hx).order_ne_nil

/-- **Every class of a repository has a source text.** -/
theorem Emits.exists_render (h : r.Emits options layer a) :
    ∃ source, Java.render a = .ok source := by
  refine Java.exists_render ?_ h.haveOrders
  cases h <;> rfl

/-- **Inner classes are coherent.**  A well-typed repository is described without a fault.  In each
inner class of its classes, however deep, the order ends in the sentinel, begins with the delimiter
and lists every field and every counter that the class gives access to, and no two accessors are of
one kind and name.  So no inner class and no class lacks a source text. -/
theorem inner_classes_coherent (typed : r.WellTyped) (options : Options) (layer : SessionLayer) :
    ∃ d, ((describe options layer r).run []).1 = .ok d ∧ ∀ a ∈ d.artifacts,
      (∀ name counter delimiter order inner,
        (Accessor.group name counter delimiter order inner).Within a.accessors →
          Accessor.Coherent delimiter order inner ∧
          Java.isOrdered (.group name counter delimiter order inner)) ∧
      ∃ source, Java.render a = .ok source := by
  refine ⟨_, (typed.describe_clean options layer).run [], fun a ha => ?_⟩
  have emitted := mem_artifacts_iff.1 ha
  refine ⟨fun name counter delimiter order inner hx => ⟨emitted.coherent hx, ?_⟩,
    emitted.exists_render⟩
  refine Java.isOrdered_of_haveOrders _ fun _ _ _ _ _ within => ?_
  exact emitted.haveOrders _ _ _ _ _ (within.trans hx)

theorem inner_classes_coherent_sample :
    (Sample.repository "FIX.4.4").WellTyped ∧ ∃ d,
      ((describe { compatible := rfl } {} (Sample.repository "FIX.4.4")).run []).1 = .ok d ∧
      ∀ a ∈ d.artifacts,
        (∀ name counter delimiter order inner,
          (Accessor.group name counter delimiter order inner).Within a.accessors →
            Accessor.Coherent delimiter order inner ∧
            Java.isOrdered (.group name counter delimiter order inner)) ∧
        ∃ source, Java.render a = .ok source :=
  ⟨Sample.wellTyped _, inner_classes_coherent (Sample.wellTyped _) _ _⟩

end Repository
end FixBindings
