import FixBindings.Proofs.ExcludedSession
import FixBindings.Proofs.FactoryCases

/-!
# The fields of accessors are used

Whether a field belongs to the application or to the session layer is decided by a walk that
collects the fields that messages use.  The accessors of messages are made by another walk, which
makes inner classes of groups, leaves out what stands behind the classes of components, and skips a
group without a declared counter together with its members.  The two stop in different places, but
the accessors never get ahead: `uses_of_within` says that whatever field has an accessor, at any
depth, is used by the members that the accessors are made from.

It is an induction along the walk over accessors.  A group or a component that this walk enters may
be entered by the other walk too, so what is used behind it is used in front of it
(`Repository.Uses.through`).
-/

set_option autoImplicit false

namespace FixBindings
namespace Repository

variable {r : Repository} {options : Options} {layer : SessionLayer} {package : String}
  {members : List Member} {path : List Key} {name : String} {id : Int}

/-- **A field with an accessor is used.** -/
theorem uses_of_within (h : (Accessor.field name id).Within
    ((r.context options layer).accessorsOf package members path).value) :
    r.Uses layer options.entersFrame members id := by
  induction path using r.index.walk_induction generalizing members with
  | step path ih =>
    obtain ⟨y, hy, h⟩ := h.exists_mem
    obtain ⟨m, hm, hy⟩ := Context.mem_accessorsOf.1 hy
    cases hy with
    | @field n f hf =>
      obtain ⟨-, rfl⟩ := Accessor.field.inj (h.eq_of_singleton rfl)
      rw [context_index, index_field?] at hf
      obtain rfl := (field?_eq_some_iff.1 hf).2
      exact Or.inl hm
    | groupClass => cases h.eq_of_singleton rfl
    | @counter gid g counter hg fresh hc =>
      obtain ⟨-, rfl⟩ := Accessor.field.inj (h.eq_of_singleton rfl)
      rw [context_index, index_group?] at hg
      rw [context_index, index_field?] at hc
      refine Or.inr ⟨.group gid, ⟨_, enters_group hm hg, .refl⟩, Or.inr ?_⟩
      rw [counterOf?, hg, Option.map_some, (field?_eq_some_iff.1 hc).2]
    | @unit gid g counter hg fresh hc =>
      rcases Context.within_unit h with same | h
      · cases same
      · have used := ih _ (Index.group_mem_keys hg) fresh h
        rw [context_index, index_group?] at hg
        rw [← membersOf_group hg] at used
        exact used.through (enters_group hm hg)
    | componentClass => cases h.eq_of_singleton rfl
    | @beside cid c _ hc entered fresh hy =>
      have used := ih _ (Index.component_mem_keys hc) fresh (h.trans (.here hy))
      rw [context_index, index_component?] at hc
      obtain rfl := (component?_eq_some_iff.1 hc).2
      have enters : r.Enters layer options.entersFrame members (.component c.id) :=
        ⟨refers_of_component hm hc, entered⟩
      refine Uses.through enters ?_
      rw [membersOf_component hc]
      exact used.mono List.filter_sublist.subset

/-- **Accessors and used fields agree.**  A well-typed repository, which may have cycles and
dangling references, is described without a fault.  Whatever field has an accessor in the class of
a message, however deep, is among the fields that the description lists for its layer: those of the
session layer for a message of that layer, and those of either layer for one of the application. -/
theorem accessed_fields_used (typed : r.WellTyped) (options : Options) (layer : SessionLayer)
    (ledger : Ledger) :
    ∃ d, ((describe options layer r).run ledger).1 = .ok d ∧
      ∀ m ∈ r.distinct.messages, (layer.ownsMessage m → options.emitsSession) →
        ∃ a, d.ClassOf m a ∧ ∀ name id, (Accessor.field name id).Within a.accessors →
          (layer.ownsMessage m = false → id ∈ d.usage.application ∨ id ∈ d.usage.session) ∧
          (layer.ownsMessage m = true → id ∈ d.usage.session) := by
  refine ⟨_, (typed.describe_clean options layer).run ledger, fun m hm shown =>
    ⟨_, classOf_message typed hm shown, fun name id within => ?_⟩⟩
  have used : r.Uses layer options.entersFrame m.members id :=
    uses_of_within (within.mono (Context.unique_subset _))
  rw [describe_usage, mem_usage_application, mem_usage_session, SessionLayer.splitMessages]
  constructor
  · intro own
    have application : m ∈ r.distinct.messages.filter fun m => !layer.ownsMessage m :=
      List.mem_filter.2 ⟨hm, by rw [own]; rfl⟩
    -- a field of the application that the session layer uses too is listed there
    by_cases session : r.UsedBy layer options.entersFrame
        (r.distinct.messages.filter layer.ownsMessage) id
    · exact Or.inr session
    · exact Or.inl ⟨⟨m, application, used⟩, session⟩
  · intro own
    exact ⟨m, List.mem_filter.2 ⟨hm, own⟩, used⟩

theorem accessed_fields_used_sample :
    (Sample.repository "FIX.4.4").WellTyped ∧ ∃ d,
      ((describe { compatible := rfl } {} (Sample.repository "FIX.4.4")).run []).1 = .ok d ∧
      ∀ m ∈ (Sample.repository "FIX.4.4").distinct.messages,
        (SessionLayer.ownsMessage {} m → Options.emitsSession { compatible := rfl }) →
        ∃ a, d.ClassOf m a ∧ ∀ name id, (Accessor.field name id).Within a.accessors →
          (SessionLayer.ownsMessage {} m = false →
            id ∈ d.usage.application ∨ id ∈ d.usage.session) ∧
          (SessionLayer.ownsMessage {} m = true → id ∈ d.usage.session) :=
  ⟨Sample.wellTyped _, accessed_fields_used (Sample.wellTyped _) _ _ []⟩

end Repository
end FixBindings
