import FixBindings.Proofs.Consistency
import FixBindings.Proofs.Requests
import Mathlib.Data.List.Find
import Mathlib.Data.List.Perm.Basic

/-!
# The order of declarations

Whatever refers to a field, a group, a component or a code set does so by an id or a name, so the
order in which these are declared should make no difference but to the order of their own classes.
`Repository.Reorders` says that two repositories declare the same in another order, the messages
excepted, and `describe_reorders` says what comes of it.

All of it rests on one fact: where no id and no name of a code set is declared twice, an index of
the reordered repository answers as the other one does (`Reorders.sameLookUps`), and so every
request has the same answer, remarks included.  The two descriptions make the same requests, in an
order that follows the declarations (`Reorders.requests`).  With repeated declarations it is
another matter, for then the first one counts.
-/

set_option autoImplicit false

namespace FixBindings

/-! ## Declaring once -/

/-- A table that is filled with items of which no two agree holds all of them. -/
theorem Index.foldl_addFirst_of_apart {α : Type} {same : α → α → Bool} {xs items : List α}
    (apart : (items ++ xs).Pairwise fun a b => same a b = false) :
    xs.foldl (addFirst same) items = items ++ xs := by
  induction xs generalizing items with
  | nil => simp
  | cons a rest ih =>
    have new : items.any (fun b => same b a) = false := by
      rw [List.any_eq_false]
      intro b hb
      simpa using (List.pairwise_append.1 apart).2.2 b hb a List.mem_cons_self
    rw [List.foldl_cons, addFirst, new, if_neg (by decide), ih (by simpa using apart)]
    simp

/-- What adding messages has to remark on depends on the messages of the index alone. -/
theorem Index.remarks_foldlM_addMessage {i j : Index} (h : i.messages = j.messages)
    (ms : List Message) : (ms.foldlM addMessage i).remarks = (ms.foldlM addMessage j).remarks := by
  induction ms generalizing i j with
  | nil => rfl
  | cons m rest ih =>
    have step : (i.addMessage m).remarks = (j.addMessage m).remarks ∧
        (i.addMessage m).value.messages = (j.addMessage m).value.messages := by
      rw [addMessage, addMessage, h]
      split <;> simp [h]
    rw [List.foldlM_cons, List.foldlM_cons, Traced.remarks_bind, Traced.remarks_bind, step.1,
      ih step.2]

/-- An item that is told by its key is found in any order. -/
theorem find?_eq_of_perm {α κ : Type} {key : α → κ} {p : α → Bool} {xs ys : List α}
    (h : xs.Perm ys) (once : (xs.map key).Nodup)
    (told : ∀ a ∈ xs, ∀ b ∈ xs, p a → p b → key a = key b) : xs.find? p = ys.find? p :=
  List.find?_eq_find?_of_perm h fun a ⟨ha, pa⟩ b ⟨hb, pb⟩ =>
    List.inj_on_of_nodup_map once ha hb (told a ha b hb pa pb)

namespace Repository

/-- No id of a kind and no name of a code set is declared twice. -/
structure DeclaresOnce (r : Repository) : Prop where
  fields : (r.fields.map Field.id).Nodup
  components : (r.components.map Component.id).Nodup
  groups : (r.groups.map Group.id).Nodup
  codeSets : (r.codeSets.map CodeSet.name).Nodup

/-- Two repositories have the same messages and declare everything else in some order. -/
structure Reorders (r s : Repository) : Prop where
  name : r.name = s.name
  version : r.version = s.version
  fields : r.fields.Perm s.fields
  codeSets : r.codeSets.Perm s.codeSets
  components : r.components.Perm s.components
  groups : r.groups.Perm s.groups
  messages : r.messages = s.messages

variable {r s : Repository} {options : Options} {layer : SessionLayer}

namespace DeclaresOnce

variable (once : r.DeclaresOnce)
include once

theorem distinct_fields : r.distinct.fields = r.fields := firstOf_eq_self_of_nodup once.fields

theorem distinct_components : r.distinct.components = r.components :=
  firstOf_eq_self_of_nodup once.components

theorem distinct_groups : r.distinct.groups = r.groups := firstOf_eq_self_of_nodup once.groups

theorem index_codeSets (typed : r.WellTyped) : r.index.codeSets = r.codeSets := by
  rw [Repository.index_codeSets, Index.foldl_addFirst_of_apart, List.nil_append]
  refine (List.pairwise_map.1 once.codeSets).imp_of_mem fun hc _ apart => ?_
  exact Bool.eq_false_iff.2 fun same =>
    apart ((Document.same_iff_eq (typed.codeSets _ hc).1).1 same)

/-- All that an index of such declarations has to remark on is the messages. -/
theorem remarks_ofRepository (typed : r.WellTyped) :
    (Index.ofRepository r).remarks = (r.messages.foldlM Index.addMessage {}).remarks := by
  obtain ⟨i, j, k, passes, noComponents, noGroups, noMessages⟩ := typed.exists_passes
  have fields : (r.fields.foldlM Index.addField {}).Silent :=
    (Index.silent_foldlM_of_empty
      (fun i f hf => Index.addField_reports (typed.fields f hf).1 i) rfl).2 once.fields
  have components : (r.components.foldlM Index.addComponent i).Silent :=
    (Index.silent_foldlM_of_empty
      (fun i c hc => Index.addComponent_reports (typed.components c hc) i)
      (by rw [noComponents, List.map_nil])).2 once.components
  have groups : (r.groups.foldlM Index.addGroup j).Silent :=
    (Index.silent_foldlM_of_empty
      (fun i g hg => Index.addGroup_reports (typed.groups g hg) i)
      (by rw [noGroups, List.map_nil])).2 once.groups
  rw [passes, fields, components, groups, List.nil_append, List.nil_append, List.nil_append]
  exact Index.remarks_foldlM_addMessage noMessages r.messages

end DeclaresOnce

/-! ## Reordered declarations -/

namespace Reorders

section

variable (h : r.Reorders s)
include h

theorem wellTyped (typed : r.WellTyped) : s.WellTyped where
  fields f hf := typed.fields f (h.fields.mem_iff.2 hf)
  codeSets c hc := typed.codeSets c (h.codeSets.mem_iff.2 hc)
  components c hc := typed.components c (h.components.mem_iff.2 hc)
  groups g hg := typed.groups g (h.groups.mem_iff.2 hg)
  messages m hm := typed.messages m (h.messages ▸ hm)

theorem declaresOnce (once : r.DeclaresOnce) : s.DeclaresOnce where
  fields := (h.fields.map _).nodup_iff.1 once.fields
  components := (h.components.map _).nodup_iff.1 once.components
  groups := (h.groups.map _).nodup_iff.1 once.groups
  codeSets := (h.codeSets.map _).nodup_iff.1 once.codeSets

theorem distinct_messages : r.distinct.messages = s.distinct.messages := by
  rw [distinct, distinct, h.messages]

theorem layout : (r.context options layer).layout = (s.context options layer).layout := by
  rw [context, context, h.version]

end

variable (h : r.Reorders s) (typed : r.WellTyped) (once : r.DeclaresOnce)
include h typed once

/-- **The order of declarations makes no difference to what an index answers.** -/
theorem sameLookUps : r.index.SameLookUps s.index where
  field? id := by
    rw [index_field?, index_field?]
    exact find?_eq_of_perm h.fields once.fields fun a _ b _ ha hb =>
      (beq_iff_eq.1 ha).trans (beq_iff_eq.1 hb).symm
  group? id := by
    rw [index_group?, index_group?]
    exact find?_eq_of_perm h.groups once.groups fun a _ b _ ha hb =>
      (beq_iff_eq.1 ha).trans (beq_iff_eq.1 hb).symm
  component? id := by
    rw [index_component?, index_component?]
    exact find?_eq_of_perm h.components once.components fun a _ b _ ha hb =>
      (beq_iff_eq.1 ha).trans (beq_iff_eq.1 hb).symm
  codeSet? name := by
    rw [Index.codeSet?, Index.codeSet?, once.index_codeSets typed,
      (h.declaresOnce once).index_codeSets (h.wellTyped typed)]
    have same {c : CodeSet} (hc : c ∈ r.codeSets) (found : c.name.same name) : c.name = name :=
      (Document.same_iff_eq (typed.codeSets c hc).1).1 found
    exact find?_eq_of_perm h.codeSets once.codeSets fun a ha b hb pa pb =>
      (same ha pa).trans (same hb pb).symm

theorem remarks_ofRepository :
    (Index.ofRepository r).remarks = (Index.ofRepository s).remarks := by
  rw [once.remarks_ofRepository typed,
    (h.declaresOnce once).remarks_ofRepository (h.wellTyped typed), h.messages]

theorem answer (q : Request) :
    (r.context options layer).answer q = (s.context options layer).answer q := by
  rw [context, context, h.version]
  exact (h.sameLookUps typed once).answer _ layer q

theorem classesOf : r.classesOf options layer = s.classesOf options layer := by
  funext requests
  simp only [Repository.classesOf, h.answer typed once]

theorem usage : r.usage options layer = s.usage options layer := by
  simp only [Repository.usage, Index.usage, Index.usedFieldIds, h.distinct_messages,
    (h.sameLookUps typed once).fieldIds]

/-! ### The requests -/

theorem fieldRequests : (r.fieldRequests options layer).Perm (s.fieldRequests options layer) := by
  have fields : (describedFields options (r.usage options layer) r.fields).Perm
      (describedFields options (r.usage options layer) s.fields) := by
    rw [describedFields, describedFields]
    split
    · exact h.fields.filter _
    · exact h.fields
  rw [Repository.fieldRequests, Repository.fieldRequests, ← h.usage typed once,
    once.distinct_fields, (h.declaresOnce once).distinct_fields]
  exact fields.map _

omit typed in
theorem groupRequests (session : Bool) :
    (r.groupRequests options layer session).Perm (s.groupRequests options layer session) := by
  rw [Repository.groupRequests, Repository.groupRequests, h.layout, once.distinct_groups,
    (h.declaresOnce once).distinct_groups]
  exact (h.groups.filter _).map _

omit typed in
theorem componentRequests :
    (r.componentRequests options layer).Perm (s.componentRequests options layer) := by
  have components : (describedComponents options layer r.components).Perm
      (describedComponents options layer s.components) := by
    rw [describedComponents, describedComponents]
    split
    · exact h.components
    · exact h.components.filter _
  rw [Repository.componentRequests, Repository.componentRequests, h.layout,
    once.distinct_components, (h.declaresOnce once).distinct_components]
  exact components.map _

omit typed once in
theorem messageRequests (session : Bool) :
    r.messageRequests options layer session = s.messageRequests options layer session := by
  rw [Repository.messageRequests, Repository.messageRequests, h.layout, h.distinct_messages]

omit typed once in
theorem singleRequests : r.singleRequests options layer = s.singleRequests options layer := by
  rw [Repository.singleRequests, Repository.singleRequests, h.version, h.distinct_messages]

/-- **The same requests are made**, those for declarations in another order. -/
theorem requests : (r.requests options layer).Perm (s.requests options layer) := by
  have usage : r.usageRequests options layer = s.usageRequests options layer := by
    rw [usageRequests, usageRequests, h.distinct_messages]
  rw [Repository.requests, Repository.requests, usage, funext h.messageRequests, h.singleRequests]
  refine .append_right _ (.append_right _ (.append (.append (.append_left _ ?_) ?_) ?_))
  · exact h.fieldRequests typed once
  · exact List.Perm.flatMap_left _ fun session _ => h.groupRequests once session
  · exact h.componentRequests once

/-! ### Classes and remarks -/

theorem artifacts : (r.artifacts options layer).Perm (s.artifacts options layer) := by
  rw [artifacts_eq_classesOf, artifacts_eq_classesOf, ← h.classesOf typed once]
  exact (h.requests typed once).filterMap _

theorem messageClasses (session : Bool) :
    r.messageClasses options layer session = s.messageClasses options layer session := by
  rw [← classesOf_messageRequests, ← classesOf_messageRequests, h.classesOf typed once,
    h.messageRequests]

theorem singleClasses : r.singleClasses options layer = s.singleClasses options layer := by
  rw [← classesOf_singleRequests, ← classesOf_singleRequests, h.classesOf typed once,
    h.singleRequests]

/-- **The same remarks are made, in some order.** -/
theorem remarks_describe :
    (describe options layer r).remarks.Perm (describe options layer s).remarks := by
  have remarksOf : r.remarksOf options layer = s.remarksOf options layer := by
    funext requests
    simp only [Repository.remarksOf, h.answer typed once]
  rw [Repository.remarks_describe, Repository.remarks_describe, h.remarks_ofRepository typed once,
    remarksOf]
  exact ((h.requests typed once).flatMap_right _).append_left _

end Reorders
end Repository

/-! ## The classes of a description -/

/-- Whether a class is neither of a field nor of a component or group, but of a message or one that
there is one of. -/
def Artifact.isApart (a : Artifact) : Bool := a.fieldId?.isNone && !a.isComponent

/-- Two descriptions hold the same, but the classes of fields and those of components and groups
are in another order. -/
structure Description.Rearranges (d e : Description) : Prop where
  layout : d.layout = e.layout
  usage : d.usage = e.usage
  fields : (d.artifacts.filter fun a => a.fieldId?.isSome).Perm
    (e.artifacts.filter fun a => a.fieldId?.isSome)
  components : (d.artifacts.filter Artifact.isComponent).Perm
    (e.artifacts.filter Artifact.isComponent)
  others : d.artifacts.filter Artifact.isApart = e.artifacts.filter Artifact.isApart

namespace Repository

variable {r s : Repository} {options : Options} {layer : SessionLayer}

/-- The classes of messages and those that there is one of come last. -/
theorem filter_isApart_artifacts : (r.artifacts options layer).filter Artifact.isApart =
    (options.layers.flatMap (r.messageClasses options layer) ++
      r.singleClasses options layer).filter Artifact.isApart := by
  have fields : (r.fieldClasses options layer).filter Artifact.isApart = [] := by
    refine List.filter_eq_nil_iff.2 fun a ha => ?_
    obtain ⟨f, -, rfl⟩ := List.mem_map.1 ha
    exact Bool.false_ne_true
  have groups : (options.layers.flatMap (r.groupClasses options layer)).filter
      Artifact.isApart = [] := by
    refine List.filter_eq_nil_iff.2 fun a ha => ?_
    obtain ⟨session, -, ha⟩ := List.mem_flatMap.1 ha
    obtain ⟨g, -, -, counter, -, rfl⟩ := mem_groupClasses.1 ha
    exact Bool.false_ne_true
  have components : (r.componentClasses options layer).filter Artifact.isApart = [] := by
    refine List.filter_eq_nil_iff.2 fun a ha => ?_
    obtain ⟨c, -, rfl⟩ := List.mem_map.1 ha
    exact Bool.false_ne_true
  rw [artifacts_eq, List.append_assoc, List.filter_append, List.filter_append, List.filter_append,
    fields, groups, components]
  simp only [List.nil_append]

/-- **The order of declarations does not matter.**  Take a well-typed repository without repeated
ids and names of code sets, and declare its fields, code sets, components and groups in another
order.  The same is described, but for the order of the classes of fields, components and groups,
and the diagnostics are the same but for their order. -/
theorem describe_reorders (typed : r.WellTyped) (once : r.DeclaresOnce) (h : r.Reorders s)
    (options : Options) (layer : SessionLayer) :
    ∃ d e, ((describe options layer r).run []).1 = .ok d ∧
      ((describe options layer s).run []).1 = .ok e ∧ d.Rearranges e ∧
      ∀ text, text ∈ ((describe options layer r).run []).2 ↔
        text ∈ ((describe options layer s).run []).2 := by
  have clean := typed.describe_clean options layer
  have clean' := (h.wellTyped typed).describe_clean options layer
  have artifacts : (r.artifacts options layer).Perm (s.artifacts options layer) :=
    h.artifacts typed once
  refine ⟨_, _, clean.run [], clean'.run [], ?_, fun text => ?_⟩
  · exact
      { layout := by rw [describe_layout, describe_layout, h.layout]
        usage := by rw [describe_usage, describe_usage, h.usage typed once]
        fields := artifacts.filter _
        components := artifacts.filter _
        others := by
          refine filter_isApart_artifacts.trans (Eq.trans ?_ filter_isApart_artifacts.symm)
          rw [funext (h.messageClasses typed once), h.singleClasses typed once] }
  · rw [Traced.mem_ledger_run, Traced.mem_ledger_run, clean.mem_reported, clean'.mem_reported]
    simp only [(h.remarks_describe typed once).mem_iff]

/-- A repository whose declarations come in the opposite order. -/
def backwards (r : Repository) : Repository :=
  { r with
    fields := r.fields.reverse
    codeSets := r.codeSets.reverse
    components := r.components.reverse
    groups := r.groups.reverse }

theorem reorders_backwards (r : Repository) : r.Reorders r.backwards where
  name := rfl
  version := rfl
  fields := r.fields.reverse_perm.symm
  codeSets := r.codeSets.reverse_perm.symm
  components := r.components.reverse_perm.symm
  groups := r.groups.reverse_perm.symm
  messages := rfl

end Repository

theorem Sample.declaresOnce (version : String) : (repository version).DeclaresOnce where
  fields := (by decide +kernel : (Sample.fields.map Field.id).Nodup)
  components := (by decide : (Sample.components.map Component.id).Nodup)
  groups := (by decide : (Sample.groups.map Group.id).Nodup)
  codeSets := by
    have names : Sample.codeSets.map CodeSet.name = ["MsgTypeCodeSet", "EncryptMethodCodeSet",
      "ResetSeqNumFlagCodeSet", "MsgDirectionCodeSet", "SideCodeSet", "OrdTypeCodeSet",
      "ExecTypeCodeSet", "PartyRoleCodeSet"].map Document.text := rfl
    rw [repository, names]
    exact List.Nodup.map (fun _ _ => Document.text.inj) (by decide)

theorem Repository.describe_reorders_sample :
    (Sample.repository "FIX.4.4").WellTyped ∧ (Sample.repository "FIX.4.4").DeclaresOnce ∧
    (Sample.repository "FIX.4.4").Reorders (Sample.repository "FIX.4.4").backwards ∧
    ∃ d e, ((describe ⟨{}, rfl⟩ {} (Sample.repository "FIX.4.4")).run []).1 = .ok d ∧
      ((describe ⟨{}, rfl⟩ {} (Sample.repository "FIX.4.4").backwards).run []).1 = .ok e ∧
      d.Rearranges e ∧ ∀ text,
        text ∈ ((describe ⟨{}, rfl⟩ {} (Sample.repository "FIX.4.4")).run []).2 ↔
          text ∈ ((describe ⟨{}, rfl⟩ {} (Sample.repository "FIX.4.4").backwards).run []).2 :=
  ⟨Sample.wellTyped _, Sample.declaresOnce _, reorders_backwards _,
    describe_reorders (Sample.wellTyped _) (Sample.declaresOnce _) (reorders_backwards _) _ {}⟩

end FixBindings
