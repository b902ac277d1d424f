import FixBindings.Proofs.FrameAgreement

/-!
# When the members of the standard header and trailer matter

Without a message base class, the standard header and trailer have no class and no walk is meant
to enter them.  The walk over the order of a repetition enters them all the same, if a group
inlines them.  `Repository.KeepsFrameOut` says that no group with a class does, and
`framePruned_iff` says that this is exactly when classes and used fields do not depend on the
members of the header and trailer.

One direction compares two repositories that agree otherwise.  For the other,
`Repository.withFrameField` gives the header and trailer one more field, which was in no order
before and turns up in the order of every group that inlines them.
-/

set_option autoImplicit false

namespace FixBindings

namespace Repository

/-- No group with a class inlines the standard header or trailer. -/
def KeepsFrameOut (r : Repository) (layer : SessionLayer) : Prop :=
  ∀ id g, r.group? id = some g → (r.field? g.counter).isSome →
    ∀ cid, r.InlinesDeep g.members (.component cid) → layer.isFrame cid = false

/-- Two repositories are described without a fault, by the same classes and with the same used
fields. -/
def SameOutcome (options : Options) (layer : SessionLayer) (r s : Repository) : Prop :=
  ∃ d d', ((describe options layer r).run []).1 = .ok d ∧
    ((describe options layer s).run []).1 = .ok d' ∧
    d.artifacts = d'.artifacts ∧ d.usage = d'.usage

variable {r s : Repository} {options : Options} {layer : SessionLayer}

theorem AgreesOffFrame.sameOutcome (agree : AgreesOffFrame layer r s)
    (pruned : options.messageBase = false) (typed : r.WellTyped) (typed' : s.WellTyped)
    (keeps : r.KeepsFrameOut layer) : SameOutcome options layer r s := by
  refine ⟨_, _, (typed.describe_clean options layer).run [],
    (typed'.describe_clean options layer).run [], ?_, ?_⟩
  · exact agree.artifacts pruned fun id g hg hc path =>
      agree.repetitionOrder path (keeps id g hg hc)
  · rw [describe_usage, describe_usage]
    exact agree.usage pruned

/-! ## One more field in the header and trailer -/

/-- A component with one more field if it is the standard header or trailer. -/
def frameField (layer : SessionLayer) (x : Int) (c : Component) : Component :=
  if layer.isFrame c.id then { c with members := .field x :: c.members } else c

/-- A repository with one more field in the standard header and trailer. -/
def withFrameField (r : Repository) (layer : SessionLayer) (x : Int) : Repository :=
  { r with components := r.components.map (frameField layer x) }

section FrameField

variable {x : Int}

theorem frameField_id (c : Component) : (frameField layer x c).id = c.id := by
  rw [frameField]
  split <;> rfl

theorem frameField_name (c : Component) : (frameField layer x c).name = c.name := by
  rw [frameField]
  split <;> rfl

theorem subset_frameField (c : Component) : c.members ⊆ (frameField layer x c).members := by
  rw [frameField]
  split
  · exact List.subset_cons_self _ _
  · exact List.Subset.refl _

theorem blank_frameField (c : Component) :
    layer.blank (frameField layer x c) = layer.blank c := by
  rw [SessionLayer.blank, frameField_id, SessionLayer.blank, frameField]
  split <;> rfl

theorem agreesOffFrame_withFrameField (r : Repository) (layer : SessionLayer) (x : Int) :
    AgreesOffFrame layer r (r.withFrameField layer x) where
  name := rfl
  version := rfl
  fields := rfl
  codeSets := rfl
  components := by
    rw [withFrameField, List.map_map]
    exact List.map_congr_left fun c _ => (blank_frameField c).symm
  groups := rfl
  messages := rfl

theorem WellTyped.withFrameField (typed : r.WellTyped) (layer : SessionLayer) (x : Int) :
    (r.withFrameField layer x).WellTyped where
  fields := typed.fields
  codeSets := typed.codeSets
  components c hc := by
    obtain ⟨c, declared, rfl⟩ := List.mem_map.1 hc
    rw [frameField_name]
    exact typed.components c declared
  groups := typed.groups
  messages := typed.messages

theorem component?_withFrameField (id : Int) :
    (r.withFrameField layer x).component? id = (r.component? id).map (frameField layer x) := by
  rw [component?, component?, withFrameField, List.find?_map]
  congr 2
  funext c
  simp [frameField_id]

/-- What was inlined before still is. -/
theorem Inlines.withFrameField {ms ns : List Member} {key : Key} (sub : ms ⊆ ns)
    (h : r.Inlines ms key) : (r.withFrameField layer x).Inlines ns key := by
  obtain ⟨refers, cid, rfl⟩ := h
  refine ⟨⟨sub refers.1, ?_⟩, cid, rfl⟩
  rw [component?_withFrameField, Option.isSome_map]
  exact refers.2

theorem membersOf_subset_withFrameField (key : Key) :
    r.membersOf key ⊆ (r.withFrameField layer x).membersOf key := by
  cases key with
  | group id => exact List.Subset.refl _
  | component id =>
    rw [membersOf, membersOf, component?_withFrameField]
    cases r.component? id with
    | none => exact List.Subset.refl _
    | some c => exact subset_frameField c

theorem InlinesDeep.withFrameField {ms : List Member} {key : Key} (h : r.InlinesDeep ms key) :
    (r.withFrameField layer x).InlinesDeep ms key := by
  obtain ⟨start, hstart, hkey⟩ := h
  refine ⟨start, hstart.withFrameField (List.Subset.refl _), ?_⟩
  exact Relation.ReflTransGen.mono
    (fun a _ hab => hab.withFrameField (membersOf_subset_withFrameField a)) _ _ hkey

/-- The added field is in the order of a group that inlines the header or trailer. -/
theorem mem_order_withFrameField {g : Group} {cid : Int} (frame : layer.isFrame cid = true)
    (h : r.InlinesDeep g.members (.component cid)) :
    x ∈ (Context.repetitionOrder (r.withFrameField layer x).index g.members
      [.group g.id]).value := by
  refine mem_repetitionOrder_iff.2 (Or.inr ⟨.component cid, h.withFrameField, Or.inl ?_⟩)
  have declared : (r.component? cid).isSome := by
    obtain ⟨start, hstart, hkey⟩ := h
    rcases hkey.cases_tail with rfl | ⟨b, -, hlast⟩
    · exact hstart.1.2
    · exact hlast.1.2
  obtain ⟨c, hc⟩ := Option.isSome_iff_exists.1 declared
  have own : layer.isFrame c.id = true := (component?_eq_some_iff.1 hc).2 ▸ frame
  have found : (r.withFrameField layer x).component? cid = some (frameField layer x c) := by
    rw [component?_withFrameField, hc, Option.map_some]
  rw [membersOf_component found, frameField, if_pos own]
  exact List.mem_cons_self

end FrameField

/-! ## The class of a group shows the order of its repetitions -/

/-- The class of a group is made from a group, and from no other one with its id. -/
theorem Emits.of_group {a : Artifact} (h : r.Emits options layer a) {g : Group} {counter : Field}
    (hg : g ∈ r.distinct.groups) (hc : r.field? g.counter = some counter) {e : Context}
    {package : String} (ha : a = e.groupClass package g counter) :
    a = (r.context options layer).groupClass
      ((r.context options layer).layout.componentsPackageOf (layer.ownsGroup g)) g counter := by
  have body := congrArg Artifact.body ha
  cases h with
  | @group g' counter' hg' hc' =>
    have id : g'.id = g.id := (ArtifactBody.component.inj body).1
    obtain rfl : g' = g := by
      have h := group?_eq_some_iff.2 ⟨hg', id⟩
      rw [group?_eq_some_iff.2 ⟨hg, rfl⟩] at h
      exact (Option.some_inj.1 h).symm
    obtain rfl : counter' = counter := Option.some_inj.1 (hc'.symm.trans hc)
    rfl
  | _ => exact absurd (congrArg Artifact.isGroup ha) Bool.false_ne_true

theorem order_of_groupClass_eq {e e' : Context} {package package' : String} {g : Group}
    {counter : Field} (h : e.groupClass package g counter = e'.groupClass package' g counter) :
    (Context.repetitionOrder e.index g.members [.group g.id]).value =
      (Context.repetitionOrder e'.index g.members [.group g.id]).value := by
  have second := Context.groupClass_second e package g counter
  rw [h, Context.groupClass_second, Option.some_inj] at second
  obtain ⟨-, -, -, orders, -⟩ := Accessor.group.inj second
  exact (List.append_cancel_right orders).symm

/-- **Where two repositories have the same outcome, they have the same orders.** -/
theorem AgreesOffFrame.orders_of_sameOutcome (agree : AgreesOffFrame layer r s)
    (included : options.excludeSession = false) (same : SameOutcome options layer r s) {id : Int}
    {g : Group} {counter : Field} (hg : r.group? id = some g)
    (hc : r.field? g.counter = some counter) :
    (Context.repetitionOrder r.index g.members [.group g.id]).value =
      (Context.repetitionOrder s.index g.members [.group g.id]).value := by
  obtain ⟨d, d', hd, hd', artifacts, -⟩ := same
  obtain rfl := (Traced.run_eq_ok_iff.1 hd).2
  obtain rfl := (Traced.run_eq_ok_iff.1 hd').2
  have declared := (group?_eq_some_iff.1 hg).1
  have shown : layer.ownsGroup g → options.emitsSession := by simp [Options.emitsSession, included]
  have emitted : s.Emits options layer _ :=
    .group (agree.distinct_groups ▸ declared) (agree.field? g.counter ▸ hc) shown
  rw [← mem_artifacts_iff, Repository.artifacts, ← artifacts] at emitted
  exact (order_of_groupClass_eq ((mem_artifacts_iff.1 emitted).of_group declared hc rfl)).symm

theorem exists_above (ids : List Int) : ∃ bound, ∀ n ∈ ids, n < bound := by
  induction ids with
  | nil => exact ⟨0, fun _ h => absurd h List.not_mem_nil⟩
  | cons id rest ih =>
    obtain ⟨bound, h⟩ := ih
    refine ⟨max (id + 1) bound, fun n hn => ?_⟩
    rcases List.mem_cons.1 hn with rfl | hn
    · omega
    · have := h n hn
      omega

/-- **When the members of the header and trailer do not matter.**  A well-typed repository is
described alike, whatever members its standard header and trailer have, exactly when no group with
a class inlines one of them. -/
theorem framePruned_iff (typed : r.WellTyped) (layer : SessionLayer) :
    (∀ (options : Options) (s : Repository), options.messageBase = false → s.WellTyped →
      AgreesOffFrame layer r s → SameOutcome options layer r s) ↔ r.KeepsFrameOut layer := by
  constructor
  · intro pruned id g hg hc cid inlined
    cases frame : layer.isFrame cid with
    | false => rfl
    | true =>
      obtain ⟨counter, hc⟩ := Option.isSome_iff_exists.1 hc
      -- a field above all of the order becomes a member of the header and trailer
      obtain ⟨x, above⟩ := exists_above
        (Context.repetitionOrder r.index g.members [.group g.id]).value
      have agree := agreesOffFrame_withFrameField r layer x
      have same := pruned { compatible := rfl } _ rfl (typed.withFrameField layer x) agree
      have added := mem_order_withFrameField (x := x) frame inlined
      rw [← agree.orders_of_sameOutcome rfl same hg hc] at added
      exact absurd (above x added) (Int.lt_irrefl x)
  · intro keeps options s noBase typed' agree
    exact agree.sameOutcome noBase typed typed' keeps

theorem framePruned_iff_sample :
    (Sample.repository "FIX.4.4").WellTyped ∧
      ((∀ (options : Options) (s : Repository), options.messageBase = false → s.WellTyped →
        AgreesOffFrame {} (Sample.repository "FIX.4.4") s →
        SameOutcome options {} (Sample.repository "FIX.4.4") s) ↔
        (Sample.repository "FIX.4.4").KeepsFrameOut {}) :=
  ⟨Sample.wellTyped _, framePruned_iff (Sample.wellTyped _) {}⟩

/-- A group that inlines the standard header. -/
def headerInGroup (headerMembers : List Member) : Repository where
  version := "FIX.4.4"
  fields := [{ id := 8, name := "BeginString", type := "String" },
    { id := 448, name := "PartyID", type := "String" },
    { id := 453, name := "NoPartyIDs", type := "NumInGroup" }]
  components := [{ id := 1024, name := "StandardHeader", members := headerMembers }]
  groups := [
    { id := 1012, name := "PartiesGrp", counter := 453, members := [.field 448, .component 1024] }]

theorem headerInGroup_wellTyped (headerMembers : List Member) :
    (headerInGroup headerMembers).WellTyped where
  fields f hf := by
    simp only [headerInGroup, List.mem_cons, List.not_mem_nil, or_false] at hf
    rcases hf with rfl | rfl | rfl <;> exact ⟨rfl, rfl, Or.inl rfl⟩
  codeSets := nofun
  components c hc := by
    obtain rfl := List.mem_singleton.1 hc
    rfl
  groups g hg := by
    obtain rfl := List.mem_singleton.1 hg
    rfl
  messages := nofun

/-- The field of the header is in the order of the repetition if and only if the header has it,
although the class of the header is not generated. -/
theorem not_framePruned :
    ¬∀ (layer : SessionLayer) (options : Options) (r s : Repository),
      options.messageBase = false → r.WellTyped → s.WellTyped → AgreesOffFrame layer r s →
      SameOutcome options layer r s := by
  intro h
  have agree : AgreesOffFrame {} (headerInGroup [.field 8]) (headerInGroup []) :=
    ⟨rfl, rfl, rfl, rfl, rfl, rfl, rfl⟩
  have same := h {} { compatible := rfl } _ _ rfl (headerInGroup_wellTyped _)
    (headerInGroup_wellTyped _) agree
  have declared : (headerInGroup [.field 8]).group? 1012 =
      some ⟨1012, "PartiesGrp", 453, [.field 448, .component 1024]⟩ := rfl
  have orders := agree.orders_of_sameOutcome rfl same declared rfl
  have entered : (Context.repetitionOrder (headerInGroup [.field 8]).index
      [.field 448, .component 1024] [.group 1012]).value = [448, 8] := by cbv
  have empty : (Context.repetitionOrder (headerInGroup []).index
      [.field 448, .component 1024] [.group 1012]).value = [448] := by cbv
  exact absurd ((entered.symm.trans orders).trans empty) (by decide)

end Repository
end FixBindings
