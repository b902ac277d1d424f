import FixBindings.Proofs.Artifacts
import FixBindings.Proofs.LookUps

/-!
# Leaving out the session layer

Where the session layer is left out, the messages of that layer are not described, and yet they
are not without effect: a field that one of them uses is left out as well.  That is all they do.
`Repository.withoutSession` is a repository without them, and the classes of the repository are the
classes of that one without the fields that session messages use
(`artifacts_withoutSession`), provided that no session message passes for the first definition of
an application message (`LayersApart`).

Only first definitions count here as elsewhere, so what a repeated definition of a session message
uses is generated none the less (`not_session_excluded`).
-/

set_option autoImplicit false

namespace FixBindings

/-- Indexes of repositories that differ in their messages answer alike. -/
theorem Index.sameLookUps_of_messages (r : Repository) (messages : List Message) :
    r.index.SameLookUps { r with messages }.index where
  field? id := by rw [Repository.index_field?, Repository.index_field?]; rfl
  group? id := by rw [Repository.index_group?, Repository.index_group?]; rfl
  component? id := by rw [Repository.index_component?, Repository.index_component?]; rfl
  codeSet? name := by
    rw [Index.codeSet?, Index.codeSet?, Repository.index_codeSets, Repository.index_codeSets]

namespace Repository

/-- A repository without the messages of the session layer. -/
def withoutSession (r : Repository) (layer : SessionLayer) : Repository :=
  { r with messages := r.messages.filter fun m => !layer.ownsMessage m }

/-- No message of the session layer has the name and scenario of one of the application. -/
def LayersApart (r : Repository) (layer : SessionLayer) : Prop :=
  ∀ m ∈ r.messages, ∀ n ∈ r.messages, m.key = n.key →
    layer.ownsMessage m = layer.ownsMessage n

instance (r : Repository) (layer : SessionLayer) (framed : Bool) (messages : List Message)
    (id : Int) : Decidable (r.UsedBy layer framed messages id) :=
  decidable_of_iff _ mem_usedFieldIds

variable {r : Repository} {options : Options} {layer : SessionLayer}

theorem WellTyped.withoutSession (typed : r.WellTyped) (layer : SessionLayer) :
    (r.withoutSession layer).WellTyped :=
  { typed with messages := fun m hm => typed.messages m (List.mem_filter.1 hm).1 }

/-! ## Messages -/

/-- What is dropped as a repetition leaves the messages of the other layer alone. -/
theorem application_withoutSession (typed : r.WellTyped) (apart : r.LayersApart layer) :
    (r.withoutSession layer).distinct.messages =
      r.distinct.messages.filter fun m => !layer.ownsMessage m := by
  symm
  refine filter_firstOf fun m hm n hn same => ?_
  rw [apart m hm n hn ((typed.sameScenario_iff hm n).1 same)]

theorem splitMessages_withoutSession (typed : r.WellTyped) (apart : r.LayersApart layer) :
    layer.splitMessages (r.withoutSession layer).distinct.messages =
      ((layer.splitMessages r.distinct.messages).1, []) := by
  rw [application_withoutSession typed apart, SessionLayer.splitMessages,
    SessionLayer.splitMessages, List.filter_filter, List.filter_filter]
  simp

/-! ## Fields -/

theorem mem_usage_application {id : Int} : id ∈ (r.usage options layer).application ↔
    r.UsedBy layer options.entersFrame (layer.splitMessages r.distinct.messages).1 id ∧
    ¬r.UsedBy layer options.entersFrame (layer.splitMessages r.distinct.messages).2 id := by
  rw [← mem_usedFieldIds, ← mem_usedFieldIds]
  simp [usage, Index.usage]

theorem mem_usage_session {id : Int} : id ∈ (r.usage options layer).session ↔
    r.UsedBy layer options.entersFrame (layer.splitMessages r.distinct.messages).2 id := by
  rw [← mem_usedFieldIds]
  simp [usage, Index.usage]

theorem usedBy_withoutSession {framed : Bool} {messages : List Message} {id : Int} :
    (r.withoutSession layer).UsedBy layer framed messages id ↔
      r.UsedBy layer framed messages id := by
  have same := Index.sameLookUps_of_messages r (r.withoutSession layer).messages
  rw [← mem_usedFieldIds, ← mem_usedFieldIds, Index.usedFieldIds, Index.usedFieldIds]
  simp only [same.fieldIds]
  rfl

/-- The fields of a repository are those that there are without the session messages, less the
fields of these. -/
theorem mem_usage_withoutSession (typed : r.WellTyped) (apart : r.LayersApart layer) {id : Int} :
    id ∈ (r.usage options layer).application ↔
      id ∈ ((r.withoutSession layer).usage options layer).application ∧
      ¬r.UsedBy layer options.entersFrame (r.distinct.messages.filter layer.ownsMessage) id := by
  rw [mem_usage_application, mem_usage_application, splitMessages_withoutSession typed apart,
    usedBy_withoutSession, usedBy_withoutSession]
  simp [UsedBy, SessionLayer.splitMessages]

/-! ## Classes -/

/-- The classes that are not of fields. -/
def otherClasses (r : Repository) (options : Options) (layer : SessionLayer) : List Artifact :=
  options.layers.flatMap (r.groupClasses options layer) ++ r.componentClasses options layer ++
    options.layers.flatMap (r.messageClasses options layer) ++ r.singleClasses options layer

theorem artifacts_eq_append :
    r.artifacts options layer = r.fieldClasses options layer ++ r.otherClasses options layer := by
  rw [artifacts_eq, otherClasses]
  simp only [List.append_assoc]

theorem fieldId?_otherClasses {a : Artifact} (h : a ∈ r.otherClasses options layer) :
    a.fieldId? = none := by
  simp only [otherClasses, List.mem_append, List.mem_flatMap, mem_groupClasses] at h
  rcases h with ((⟨_, _, g, _, _, counter, _, rfl⟩ | h) | ⟨_, _, h⟩) | h
  · rfl
  · obtain ⟨c, -, rfl⟩ := List.mem_map.1 h
    rfl
  · obtain ⟨m, -, rfl⟩ := List.mem_map.1 h
    rfl
  · rw [singleClasses] at h
    split at h
    · simp only [List.singleton_append, List.mem_cons, List.not_mem_nil, or_false] at h
      rcases h with rfl | rfl | rfl <;> rfl
    · simp only [List.nil_append, List.mem_cons, List.not_mem_nil, or_false] at h
      rcases h with rfl | rfl <;> rfl

section Excluded

variable (typed : r.WellTyped) (apart : r.LayersApart layer)
  (excluded : options.excludeSession = true)
include typed apart excluded

theorem fieldClasses_withoutSession : r.fieldClasses options layer =
    ((r.withoutSession layer).fieldClasses options layer).filter fun a => ∀ id ∈ a.fieldId?,
      ¬r.UsedBy layer options.entersFrame (r.distinct.messages.filter layer.ownsMessage) id := by
  have same := Index.sameLookUps_of_messages r (r.withoutSession layer).messages
  have described (f : Field) := same.describeField (.ofVersion options r.version) layer f
  have fieldId (f : Field) :
      (((r.withoutSession layer).context options layer).describeField f).value.fieldId? =
        some f.id := rfl
  rw [fieldClasses, fieldClasses, List.filter_map, describedFields, describedFields,
    if_pos excluded, if_pos excluded, List.filter_filter]
  refine congrArg₂ List.map (funext fun f => congrArg Traced.value (described f)) ?_
  refine List.filter_congr fun f _ => ?_
  rw [Bool.eq_iff_iff, List.contains_iff_mem, mem_usage_withoutSession typed apart]
  simp [fieldId, and_comm]

theorem otherClasses_withoutSession : r.otherClasses options layer =
    (r.withoutSession layer).otherClasses options layer := by
  have same := Index.sameLookUps_of_messages r (r.withoutSession layer).messages
  have application := splitMessages_withoutSession typed apart
  have layers : options.layers = [false] := by
    simp [Options.layers, Options.emitsSession, excluded]
  have groups : r.groupClasses options layer false =
      (r.withoutSession layer).groupClasses options layer false :=
    congrArg₂ List.filterMap
      (funext fun g => congrArg Traced.value (same.describeGroup _ layer _ g)) rfl
  have components : r.componentClasses options layer =
      (r.withoutSession layer).componentClasses options layer :=
    congrArg₂ List.map
      (funext fun c => congrArg Traced.value (same.describeComponent _ layer _ c)) rfl
  have messages : r.messageClasses options layer false =
      (r.withoutSession layer).messageClasses options layer false := by
    have kept : (r.withoutSession layer).distinct.messages.filter
        (fun m => layer.ownsMessage m == false) =
          r.distinct.messages.filter fun m => layer.ownsMessage m == false := by
      simpa [SessionLayer.splitMessages] using congrArg Prod.fst application
    rw [messageClasses, messageClasses, kept]
    exact congrArg₂ List.map
      (funext fun m => congrArg Traced.value (same.describeMessage _ layer _ _ m)) rfl
  have single : r.singleClasses options layer =
      (r.withoutSession layer).singleClasses options layer := by
    rw [singleClasses, singleClasses, application]
    simp only [context, same.describeFactory]
    rfl
  rw [otherClasses, otherClasses, layers, components, single]
  simp only [List.flatMap_cons, List.flatMap_nil, groups, messages]

/-- **The classes are those of the repository without the session messages, in order, except for
the fields that session messages use.** -/
theorem artifacts_withoutSession : r.artifacts options layer =
    ((r.withoutSession layer).artifacts options layer).filter fun a => ∀ id ∈ a.fieldId?,
      ¬r.UsedBy layer options.entersFrame (r.distinct.messages.filter layer.ownsMessage) id := by
  rw [artifacts_eq_append, artifacts_eq_append, List.filter_append,
    ← fieldClasses_withoutSession typed apart excluded,
    ← otherClasses_withoutSession typed apart excluded, List.filter_eq_self.2]
  intro a ha
  simp [fieldId?_otherClasses ha]

end Excluded

/-- With and without its session messages, a repository is described without a fault.  The classes
that are not of fields are the same, and the fields are, in order, those that there are without the
session messages except for the fields that `messages` use. -/
def DiffersInFieldsOf (r : Repository) (options : Options) (layer : SessionLayer)
    (messages : List Message) : Prop :=
  ∃ d d', ((describe options layer r).run []).1 = .ok d ∧
    ((describe options layer (r.withoutSession layer)).run []).1 = .ok d' ∧
    d.artifacts.filter (fun a => a.fieldId?.isNone) =
      d'.artifacts.filter (fun a => a.fieldId?.isNone) ∧
    d.artifacts.filter (fun a => a.fieldId?.isSome) =
      (d'.artifacts.filter fun a => a.fieldId?.isSome).filter fun a =>
        ∀ id ∈ a.fieldId?, ¬r.UsedBy layer options.entersFrame messages id

/-- **Leaving out the session layer.**  Where the session layer is left out, its messages make no
difference but for the fields that they use.  The messages that count are the first definitions,
and none of them may pass for a message of the application. -/
theorem session_excluded (typed : r.WellTyped) (apart : r.LayersApart layer)
    (excluded : options.excludeSession = true) :
    r.DiffersInFieldsOf options layer (r.distinct.messages.filter layer.ownsMessage) := by
  have artifacts := artifacts_withoutSession typed apart excluded
  refine ⟨_, _, (typed.describe_clean options layer).run [],
    ((typed.withoutSession layer).describe_clean options layer).run [], ?_, ?_⟩
  · refine (congrArg (List.filter _) artifacts).trans ?_
    rw [List.filter_filter]
    refine List.filter_congr fun a _ => ?_
    cases h : a.fieldId? <;> simp
  · refine (congrArg (List.filter _) artifacts).trans ?_
    rw [List.filter_filter, List.filter_filter]
    exact List.filter_congr fun a _ => Bool.and_comm _ _

end Repository

/-- In the sample the names of messages tell the layers apart. -/
theorem Sample.layersApart (version : String) : (Sample.repository version).LayersApart {} := by
  have named : ∀ m ∈ Sample.messages, SessionLayer.ownsMessage {} m =
      [some "Heartbeat", some "Logon", some "Logout"].contains m.name.text? := by decide
  intro m hm n hn same
  have name : m.name = n.name := congrArg Prod.fst same
  rw [named m hm, named n hn, name]

namespace Repository

theorem session_excluded_sample :
    (Sample.repository "FIX.4.4").WellTyped ∧ (Sample.repository "FIX.4.4").LayersApart {} ∧
      (Sample.repository "FIX.4.4").DiffersInFieldsOf
        ⟨{ excludeSession := true, dedicatedSession := false }, rfl⟩ {}
        ((Sample.repository "FIX.4.4").distinct.messages.filter (SessionLayer.ownsMessage {})) :=
  ⟨Sample.wellTyped _, Sample.layersApart _,
    session_excluded (Sample.wellTyped _) (Sample.layersApart _) rfl⟩

/-- A message of the session layer that is defined twice, and a field that the second definition
and a message of the application use. -/
def repeatedLogon : Repository where
  version := "FIX.4.4"
  fields := [{ id := 58, name := "Text", type := "String" }]
  messages := [{ name := "Logon", msgType := "A", category := "Session" },
    { name := "Logon", msgType := "A", category := "Session", members := [.field 58] },
    { name := "Order", msgType := "D", members := [.field 58] }]

theorem repeatedLogon_wellTyped : repeatedLogon.WellTyped where
  fields f hf := by
    obtain rfl := List.mem_singleton.1 hf
    exact ⟨rfl, rfl, Or.inl rfl⟩
  codeSets := nofun
  components := nofun
  groups := nofun
  messages := by decide

theorem repeatedLogon_layersApart : repeatedLogon.LayersApart {} := by
  have named : ∀ m ∈ repeatedLogon.messages, SessionLayer.ownsMessage {} m =
      (m.name.text? == some "Logon") := by decide
  intro m hm n hn same
  have name : m.name = n.name := congrArg Prod.fst same
  rw [named m hm, named n hn, name]

/-- The field of a repeated definition is not left out. -/
theorem not_session_excluded :
    ¬∀ (r : Repository) (options : Options) (layer : SessionLayer), r.WellTyped →
      r.LayersApart layer → options.excludeSession = true →
        r.DiffersInFieldsOf options layer (r.messages.filter layer.ownsMessage) := by
  intro h
  let options : Options := ⟨{ excludeSession := true, dedicatedSession := false }, rfl⟩
  obtain ⟨d, d', hd, -, -, fields⟩ := h repeatedLogon options {} repeatedLogon_wellTyped
    repeatedLogon_layersApart rfl
  obtain rfl := (Traced.run_eq_ok_iff.1 hd).2
  -- the first definition of the session message has no members
  have unused : ¬repeatedLogon.UsedBy {} false
      [{ name := "Logon", msgType := "A", category := "Session" }] 58 := by
    rw [← mem_usedFieldIds]
    simp [Index.usedFieldIds, Index.fieldIds, idSet]
  have described : (58 : Int) ∈ (repeatedLogon.usage options {}).application :=
    mem_usage_application.2 ⟨⟨_, List.mem_singleton_self _, Or.inl (by decide)⟩, unused⟩
  have shown : ({ id := 58, name := "Text", type := "String" } : Field) ∈
      describedFields options (repeatedLogon.usage options {}) repeatedLogon.distinct.fields := by
    rw [describedFields, if_pos rfl]
    exact List.mem_filter.2 ⟨List.mem_cons_self, List.contains_iff_mem.2 described⟩
  have emitted : _ ∈ (describe options {} repeatedLogon).value.artifacts.filter
      fun a => a.fieldId?.isSome := List.mem_filter.2 ⟨mem_artifacts_iff.2 (.field shown), rfl⟩
  rw [fields, List.mem_filter] at emitted
  have used : repeatedLogon.UsedBy {} false
      (repeatedLogon.messages.filter (SessionLayer.ownsMessage {})) 58 :=
    ⟨_, List.mem_cons_of_mem _ List.mem_cons_self, Or.inl (by decide)⟩
  exact of_decide_eq_true emitted.2 58 rfl used

end Repository
end FixBindings
