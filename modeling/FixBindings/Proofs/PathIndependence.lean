import FixBindings.Proofs.ReferenceClosure
import FixBindings.Proofs.SilentWalks
import FixBindings.Proofs.WalkCalls

/-!
# Inner classes do not depend on the path

A walk for accessors carries the nodes that it has come through, and stops where it would enter one
of them again.  So the inner class of a group might look one way in the class of the group and
another way in a message, or in a group around it.  Without cycles it does not.

The reason is that a path never matters.  Whatever the members of a node refer to comes after all
that the walk has come through (`Repository.Follows`), so in a repository without cycles it is not
among it.  Two paths that members follow thus stop the walk nowhere: `accessorsOf_eq_of_follows` is
an induction along one of the paths, with `repetitionOrder_eq_of_follows` for the order of the
fields.

It remains to see that a walk is only ever called on paths that its members follow.
`Program.Makes` says that a program makes a call on its way to its end, and `OnTheWay` says of a
call what the bodies of the walks keep (`allCalls_body_onTheWay`).
-/

set_option autoImplicit false

namespace FixBindings

/-! ## Walks on two paths -/

namespace Context

variable {e : Context} {package : String} {members : List Member} {p q : List Key}

theorem repetitionOrder_congr {index : Index}
    (h : ∀ m ∈ members, ownOrder index p m = ownOrder index q m) :
    repetitionOrder index members p = repetitionOrder index members q := by
  induction members with
  | nil => rw [repetitionOrder, repetitionOrder]
  | cons m rest ih =>
    rw [repetitionOrder_cons, repetitionOrder_cons, h m List.mem_cons_self,
      ih fun n hn => h n (List.mem_cons_of_mem m hn)]

theorem accessorsOf_congr
    (h : ∀ m ∈ members, e.ownAccessors package p m = e.ownAccessors package q m) :
    e.accessorsOf package members p = e.accessorsOf package members q := by
  induction members with
  | nil => rw [accessorsOf, accessorsOf]
  | cons m rest ih =>
    rw [accessorsOf_cons, accessorsOf_cons, h m List.mem_cons_self,
      ih fun n hn => h n (List.mem_cons_of_mem m hn)]

end Context

namespace Repository

variable {r : Repository} {options : Options} {layer : SessionLayer} {package : String}
  {members : List Member} {path p q : List Key} {g : Group} {counter : Field}

/-- The walks for the class of a group begin with the group on their path. -/
theorem follows_group (hg : g ∈ r.distinct.groups) : r.Follows g.members [.group g.id] :=
  follows_node (members_subset_group (group?_eq_some_iff.2 ⟨hg, rfl⟩))

/-- The walk for the class of a component begins with the component on its path. -/
theorem follows_component {c : Component} (hc : c ∈ r.distinct.components) :
    r.Follows c.members [.component c.id] :=
  follows_node (members_subset_component (component?_eq_some_iff.2 ⟨hc, rfl⟩))

section Acyclic

variable (acyclic : r.Acyclic)
include acyclic

/-- **The order of the fields does not depend on the path** where the members follow it. -/
theorem repetitionOrder_eq_of_follows (hp : r.Follows members p) (hq : r.Follows members q) :
    Context.repetitionOrder r.index members p = Context.repetitionOrder r.index members q := by
  induction p using r.index.walk_induction generalizing members q with
  | step p ih =>
    refine Context.repetitionOrder_congr fun m hm => ?_
    cases m with
    | field id => rfl
    | group id => rfl
    | component id =>
      rw [Context.ownOrder, Context.ownOrder, index_component?]
      cases hc : r.component? id with
      | none => rfl
      | some c =>
        have refers := refers_component hm hc
        have inner := members_subset_component hc
        have same := ih _ refers.declared (hp.fresh acyclic refers) (hp.enter refers inner)
          (hq.enter refers inner)
        simp only [hp.fresh acyclic refers, hq.fresh acyclic refers, if_false, same]

/-- **Accessors do not depend on the path** where the members follow it, and neither do the remarks
that are made on the way. -/
theorem accessorsOf_eq_of_follows (hp : r.Follows members p) (hq : r.Follows members q) :
    (r.context options layer).accessorsOf package members p =
      (r.context options layer).accessorsOf package members q := by
  induction p using r.index.walk_induction generalizing members q with
  | step p ih =>
    refine Context.accessorsOf_congr fun m hm => ?_
    cases m with
    | field id => rfl
    | group id =>
      rw [Context.ownAccessors, Context.ownAccessors, context_index, index_group?]
      cases hg : r.group? id with
      | none => rfl
      | some g =>
        have refers := refers_group hm hg
        have inner := members_subset_group hg
        have follows := hp.enter refers inner
        have follows' := hq.enter refers inner
        have order := repetitionOrder_eq_of_follows acyclic follows follows'
        have same := ih _ refers.declared (hp.fresh acyclic refers) follows follows'
        simp only [hp.fresh acyclic refers, hq.fresh acyclic refers, if_false, order, same]
    | component id =>
      rw [Context.ownAccessors, Context.ownAccessors, context_index, index_component?]
      cases hc : r.component? id with
      | none => rfl
      | some c =>
        have refers := refers_component hm hc
        have inner := direct_subset_component hc
        have same := ih _ refers.declared (hp.fresh acyclic refers) (hp.enter refers inner)
          (hq.enter refers inner)
        simp only [hp.fresh acyclic refers, hq.fresh acyclic refers, if_false, same]

/-- **The inner class of a group does not depend on the path** where its members follow it. -/
theorem unit_eq_of_follows (hp : r.Follows g.members p) (hq : r.Follows g.members q) :
    (r.context options layer).unit package g counter p =
      (r.context options layer).unit package g counter q := by
  have order := repetitionOrder_eq_of_follows acyclic hp hq
  have accessors := @accessorsOf_eq_of_follows r options layer package _ _ _ acyclic hp hq
  rw [Context.unit, Context.unit, context_index, order, accessors]

end Acyclic

end Repository

/-! ## Calls on the way -/

namespace Program

/-- A program makes a call on the way to its end, itself or in the body of a walk that it calls. -/
inductive Makes (e : Context) {β : Type} (d : Call β) : {α : Type} → Program α → Prop
  | remark {α : Type} {remarks : List Remark} {next : Program α} (h : Makes e d next) :
      Makes e d (.remark remarks next)
  | here {α : Type} {next : β → Program α} : Makes e d (.call d next)
  | inner {α γ : Type} {c : Call γ} {next : γ → Program α} (h : Makes e d (e.body c)) :
      Makes e d (.call c next)
  | later {α γ : Type} {c : Call γ} {next : γ → Program α}
      (h : Makes e d (next (e.walk γ c).value)) : Makes e d (.call c next)

/-- What the calls of a program have, and the bodies of such calls keep, all calls on the way
have. -/
theorem Makes.of_allCalls {e : Context} {α β : Type} {d : Call β} {p : Program α}
    {P : (β : Type) → Call β → Prop} (keep : ∀ γ (c : Call γ), P γ c → (e.body c).AllCalls P)
    (h : Makes e d p) (all : p.AllCalls P) : P β d := by
  induction h with
  | remark _ ih => exact ih all
  | here => exact all.1
  | inner _ ih => exact ih (keep _ _ all.1)
  | later _ ih => exact ih (all.2 _)

end Program

namespace Repository

open Program

variable {r : Repository} {options : Options} {layer : SessionLayer} {package : String}
  {members : List Member} {path : List Key}

/-- A call that is made on the way to a class: one for the order of a repetition, one for the
accessors of members that follow their path, or one for the inner class of a group whose members
do, under the name of its counter. -/
def OnTheWay (r : Repository) (α : Type) : Call α → Prop
  | .order _ _ => True
  | .accessors _ members path => r.Follows members path
  | .repetition _ name g counter path =>
    r.Follows g.members path ∧ name.Clean ∧ name.value = (className counter.name).value
  | .usage .. => False
  | .cases .. => False

theorem allCalls_orderStep (e : Context) (path : List Key) (m : Member) :
    (e.orderStep path m).AllCalls r.OnTheWay := by
  cases m with
  | field id => exact trivial
  | group id => exact trivial
  | component id =>
    rw [Context.orderStep]
    split
    · exact trivial
    · split
      · exact trivial
      · exact allCalls_request.2 trivial

theorem allCalls_accessorStep (follows : r.Follows members path) {m : Member} (hm : m ∈ members) :
    ((r.context options layer).accessorStep package path m).AllCalls r.OnTheWay := by
  cases m with
  | field id =>
    refine allCalls_lift_bind.2 ?_
    split
    · exact trivial
    · exact allCalls_lift_bind.2 trivial
  | group id =>
    rw [Context.accessorStep, context_index, index_group?]
    split
    · exact trivial
    · rename_i g hg
      have inner := follows.enter (refers_group hm hg) (members_subset_group hg)
      split
      · exact trivial
      · refine allCalls_lift_bind.2 ?_
        split
        · exact trivial
        · refine allCalls_lift_bind.2 (allCalls_lift_bind.2 ?_)
          refine allCalls_bind (allCalls_request.2 ⟨inner, Traced.clean_pure _, rfl⟩) ?_
          exact fun _ => trivial
  | component id =>
    rw [Context.accessorStep, context_index, index_component?]
    split
    · exact trivial
    · rename_i c hc
      have inner := follows.enter (refers_component hm hc) (direct_subset_component hc)
      have own : ((r.context options layer).classStep package c).AllCalls r.OnTheWay := by
        rw [Context.classStep]
        split <;> exact trivial
      have beside : (Context.besideStep package path c).AllCalls r.OnTheWay := by
        rw [Context.besideStep]
        split
        · exact trivial
        · exact allCalls_request.2 inner
      split
      · exact trivial
      · exact allCalls_bind own fun _ => allCalls_bind beside fun _ => trivial

/-- **The bodies of the walks keep on the way.** -/
theorem allCalls_body_onTheWay (α : Type) (c : Call α) (h : r.OnTheWay α c) :
    ((r.context options layer).body c).AllCalls r.OnTheWay := by
  cases c with
  | usage => exact h.elim
  | order members path => exact allCalls_map (allCalls_mapM fun m _ => allCalls_orderStep _ path m)
  | accessors package members path =>
    exact allCalls_map (allCalls_mapM fun m hm => allCalls_accessorStep h hm)
  | repetition package name g counter path =>
    refine allCalls_bind (allCalls_request.2 trivial) fun _ => ?_
    refine allCalls_lift_bind.2 (allCalls_lift_bind.2 ?_)
    exact allCalls_bind (allCalls_request.2 h.1) fun _ => trivial
  | cases => exact h.elim

/-- A request is for the class of a message, or for the class of a component or group that
references lead to. -/
inductive AsksForClass (r : Repository) : Request → Prop
  | group (package : String) {g : Group} (hg : g ∈ r.distinct.groups) :
      AsksForClass r (.groupClass package g)
  | component (package : String) {c : Component} (hc : c ∈ r.distinct.components) :
      AsksForClass r (.componentClass package c)
  | message (package componentsPackage : String) (m : Message) :
      AsksForClass r (.messageClass package componentsPackage m)

theorem AsksForClass.allCalls (typed : r.WellTyped) {q : Request} (h : r.AsksForClass q) :
    ((r.context options layer).program q).AllCalls r.OnTheWay := by
  cases h with
  | @group package g hg =>
    refine allCalls_lift_bind.2 ?_
    rw [Index.value_fieldFor, context_index, index_field?]
    cases hc : r.field? g.counter with
    | none => exact trivial
    | some counter =>
      have name := className_clean (typed.fields counter (List.mem_of_find?_eq_some hc)).1
      have follows := follows_group hg
      refine allCalls_lift_bind.2 (allCalls_bind (allCalls_request.2 ⟨follows, name, rfl⟩) ?_)
      exact fun _ => allCalls_bind (allCalls_request.2 follows) fun _ => trivial
  | component package hc =>
    exact allCalls_bind (allCalls_request.2 (follows_component hc)) fun _ => trivial
  | message => exact allCalls_bind (allCalls_request.2 follows_nil) fun _ => trivial

/-- **On the way to a class the inner class of a group is always that of its own class.** -/
theorem AsksForClass.unit_of_makes (typed : r.WellTyped) (acyclic : r.Acyclic) {q : Request}
    (asks : r.AsksForClass q) {name : Traced String} {g : Group} {counter : Field}
    (hg : g ∈ r.distinct.groups)
    (makes : Makes (r.context options layer) (.repetition package name g counter path)
      ((r.context options layer).program q)) (ledger : Ledger) :
    (((r.context options layer).walk _ (.repetition package name g counter path)).run ledger).1 =
      .ok ((r.context options layer).unit package g counter [.group g.id]) := by
  obtain ⟨follows, clean, named⟩ := makes.of_allCalls allCalls_body_onTheWay (asks.allCalls typed)
  rw [← unit_eq_of_follows acyclic follows (follows_group hg), Traced.run_eq_ok_iff]
  constructor
  · simp [Context.walk, clean, Context.repetitionOrder_clean,
      Context.accessorsOf_clean (typed.context_named options layer)]
  · simp [Context.walk, named, Context.unit]

/-! ## Inner classes of classes -/

theorem unit_of_within (acyclic : r.Acyclic) (follows : r.Follows members path) {x : Accessor}
    (unit : x.isUnit) (h : x.Within
      ((r.context options layer).accessorsOf package members path).value) :
    ∃ g ∈ r.distinct.groups, ∃ counter, r.field? g.counter = some counter ∧
      x = (r.context options layer).unit package g counter [.group g.id] := by
  induction path using r.index.walk_induction generalizing members with
  | step path ih =>
    obtain ⟨y, hy, h⟩ := h.exists_mem
    obtain ⟨m, hm, hy⟩ := Context.mem_accessorsOf.1 hy
    cases hy with
    | @unit id g counter hg fresh hc =>
      rw [context_index, index_group?] at hg
      rw [context_index, index_field?] at hc
      have behind := follows.enter (refers_group hm hg) (members_subset_group hg)
      rcases Context.within_unit h with rfl | h
      · have first := (group?_eq_some_iff.1 hg).1
        exact ⟨g, first, counter, hc, unit_eq_of_follows acyclic behind (follows_group first)⟩
      · exact ih _ (refers_group hm hg).declared fresh behind h
    | @beside id c _ hc entered fresh hy =>
      rw [context_index, index_component?] at hc
      have refers := refers_component hm hc
      have behind := follows.enter refers (direct_subset_component hc)
      exact ih _ refers.declared fresh behind (h.trans (.here hy))
    | field => exact absurd (h.isUnit_of_singleton unit) Bool.false_ne_true
    | groupClass => exact absurd (h.isUnit_of_singleton unit) Bool.false_ne_true
    | counter => exact absurd (h.isUnit_of_singleton unit) Bool.false_ne_true
    | componentClass => exact absurd (h.isUnit_of_singleton unit) Bool.false_ne_true

/-- The inner classes of the classes of a repository are those of groups on their own. -/
theorem Emits.unit_of_within (acyclic : r.Acyclic) {a : Artifact}
    (h : r.Emits options layer a) {x : Accessor} (unit : x.isUnit) (hx : x.Within a.accessors) :
    ∃ g ∈ r.distinct.groups, ∃ counter, r.field? g.counter = some counter ∧
      x = (r.context options layer).unit a.referencePackage g counter [.group g.id] := by
  cases h with
  | @group g counter hg hc =>
    have follows := follows_group hg
    obtain ⟨y, hy, hx⟩ := (hx.mono (Context.unique_subset _)).exists_mem
    rcases List.mem_cons.1 hy with rfl | hy
    · exact absurd (hx.isUnit_of_singleton unit) Bool.false_ne_true
    · rcases List.mem_cons.1 hy with rfl | hy
      · rcases Context.within_unit hx with rfl | hx
        · exact ⟨g, hg, counter, hc, rfl⟩
        · exact Repository.unit_of_within acyclic follows unit hx
      · exact Repository.unit_of_within acyclic follows unit (hx.trans (.here hy))
  | @component c hc =>
    have follows := follows_component (describedComponents_subset _ _ _ hc)
    exact Repository.unit_of_within acyclic follows unit (hx.mono (Context.unique_subset _))
  | message =>
    rw [Context.referencePackage_describeMessage]
    exact Repository.unit_of_within acyclic follows_nil unit (hx.mono (Context.unique_subset _))
  | _ => exact absurd hx Accessor.not_within_nil

/-- An inner class is that of the class of a group itself, where it stands second. -/
def OwnUnit (e : Context) (package : String) (g : Group) (unit : Accessor) : Prop :=
  ∃ a, ((e.describeGroup package g).run []).1 = .ok (some a) ∧ a.accessors[1]? = some unit

theorem WellTyped.ownUnit (typed : r.WellTyped) {g : Group} {counter : Field}
    (hg : g ∈ r.distinct.groups) (hc : r.field? g.counter = some counter) :
    OwnUnit (r.context options layer) package g
      ((r.context options layer).unit package g counter [.group g.id]) := by
  have clean : ((r.context options layer).describeGroup package g).Clean :=
    typed.describeGroup_clean (typed.groups g (distinct_groups_subset hg)) package
  refine ⟨_, ?_, Context.groupClass_second _ package g counter⟩
  rw [clean.run, Context.value_describeGroup, context_index, index_field?, hc, Option.map_some]

/-- **Inner classes do not depend on the path.**  Take a well-typed repository where no group and
no component leads back to itself, and a package.  Whenever the walk that makes the class of a
message, a component or a group comes to make the inner class of a group with a declared counter,
on whatever path, it makes the inner class that the class of that group has itself.  All inner
classes in the description of the repository, however deep, are such classes: each has the order,
the delimiter and the accessors that it has in the class of its group. -/
theorem inner_classes_path_independent (typed : r.WellTyped) (acyclic : r.Acyclic)
    (options : Options) (layer : SessionLayer) (ledger : Ledger) :
    (∀ package, ∀ g ∈ r.distinct.groups, ∀ counter, r.field? g.counter = some counter →
      ∃ unit, OwnUnit (r.context options layer) package g unit ∧
        ∀ q, r.AsksForClass q → ∀ name path,
          Makes (r.context options layer) (.repetition package name g counter path)
            ((r.context options layer).program q) →
          (((r.context options layer).walk _
            (.repetition package name g counter path)).run ledger).1 = .ok unit) ∧
    ∃ d, ((describe options layer r).run ledger).1 = .ok d ∧
      ∀ a ∈ d.artifacts, ∀ x, x.Within a.accessors → x.isUnit →
        ∃ g ∈ r.distinct.groups, OwnUnit (r.context options layer) a.referencePackage g x := by
  refine ⟨fun package g hg counter hc => ⟨_, typed.ownUnit hg hc, ?_⟩,
    _, (typed.describe_clean options layer).run ledger, fun a ha x hx unit => ?_⟩
  · exact fun q asks name path makes => asks.unit_of_makes typed acyclic hg makes ledger
  · obtain ⟨g, hg, counter, hc, rfl⟩ := (mem_artifacts_iff.1 ha).unit_of_within acyclic unit hx
    exact ⟨g, hg, typed.ownUnit hg hc⟩

/-- A message with a group, which is also within another group of the message. -/
def nested : Repository where
  version := "FIX.4.4"
  fields := [{ id := 523, name := "PartySubID", type := "String" },
    { id := 453, name := "NoPartyIDs", type := "NumInGroup" },
    { id := 802, name := "NoPartySubIDs", type := "NumInGroup" }]
  groups := [{ id := 1, name := "PtysSubGrp", counter := 802, members := [.field 523] },
    { id := 2, name := "Parties", counter := 453, members := [.group 1] }]
  messages := [{ name := "Order", msgType := "D", members := [.group 2, .group 1] }]

theorem nested_wellTyped : nested.WellTyped where
  fields f hf := by
    simp only [nested, List.mem_cons, List.not_mem_nil, or_false] at hf
    rcases hf with rfl | rfl | rfl <;> exact ⟨rfl, rfl, Or.inl rfl⟩
  codeSets := nofun
  components := nofun
  groups := by decide
  messages := by decide

theorem nested_acyclic : nested.Acyclic :=
  acyclic_of_rank (fun key => if key = .group 2 then 1 else 0)
    (by decide : ∀ g ∈ nested.groups, _) nofun

theorem inner_classes_path_independent_nested :
    nested.WellTyped ∧ nested.Acyclic ∧
    (∀ package, ∀ g ∈ nested.distinct.groups, ∀ counter,
      nested.field? g.counter = some counter →
      ∃ unit, OwnUnit (nested.context { compatible := rfl } {}) package g unit ∧
        ∀ q, nested.AsksForClass q → ∀ name path,
          Makes (nested.context { compatible := rfl } {})
            (.repetition package name g counter path)
            ((nested.context { compatible := rfl } {}).program q) →
          (((nested.context { compatible := rfl } {}).walk _
            (.repetition package name g counter path)).run []).1 = .ok unit) ∧
    ∃ d, ((describe { compatible := rfl } {} nested).run []).1 = .ok d ∧
      ∀ a ∈ d.artifacts, ∀ x, x.Within a.accessors → x.isUnit →
        ∃ g ∈ nested.distinct.groups,
          OwnUnit (nested.context { compatible := rfl } {}) a.referencePackage g x :=
  ⟨nested_wellTyped, nested_acyclic,
    inner_classes_path_independent nested_wellTyped nested_acyclic _ _ []⟩

/-- The walk for the message comes to the inner group by way of the outer one. -/
example : Makes (nested.context { compatible := rfl } {})
    (.repetition "p" (pure "NoPartySubIDs")
      { id := 1, name := "PtysSubGrp", counter := 802, members := [.field 523] }
      { id := 802, name := "NoPartySubIDs", type := "NumInGroup" } [.group 2, .group 1])
    ((nested.context { compatible := rfl } {}).program (.messageClass "m" "p"
      { name := "Order", msgType := "D", members := [.group 2, .group 1] })) :=
  .inner (.remark (.remark (.remark (.inner (.later (.remark (.remark (.inner
    (.remark (.remark (.remark .here)))))))))))

end Repository
end FixBindings
