import FixBindings.Proofs.Artifacts
import FixBindings.Proofs.LookUps
import FixBindings.Proofs.Reports

/-!
# What can be asked of an index

Once there is an index, a declaration can be looked up in it, the fields of messages can be
collected along it, and a class can be made from it.  A `Request` is one of these, and
`Context.answer` is what comes of it.  To describe a repository is to make its requests one after
another: the classes are among the answers (`artifacts_eq_classesOf`), and what there is to remark
on is what there was to remark on in the index and in each answer (`remarks_describe`).
-/

set_option autoImplicit false

namespace FixBindings

/-- Something that is asked of an index or of what is made from it. -/
inductive Request where
  | field (operation : Operation) (id : Int)
  | group (operation : Operation) (id : Int)
  | component (operation : Operation) (id : Int)
  | codeSet (f : Field)
  | usedFieldIds (layer : SessionLayer) (framed : Bool) (messages : List Message)
  | fieldClass (f : Field)
  | groupClass (package : String) (g : Group)
  | componentClass (package : String) (c : Component)
  | messageClass (package componentsPackage : String) (m : Message)
  | messageBase (version : String)
  | factory (messages : List Message)
  | cracker (messages : List Message)

/-- What comes of a request. -/
inductive Answer where
  | field (f? : Option Field)
  | group (g? : Option Group)
  | component (c? : Option Component)
  | codeSet (c? : Option CodeSet)
  | fieldIds (ids : List Int)
  | artifact (a? : Option Artifact)

/-- The class that an answer holds. -/
def Answer.artifact? : Answer → Option Artifact
  | .artifact a? => a?
  | _ => none

/-- The answer to a request. -/
def Context.answer (e : Context) : Request → Traced Answer
  | .field operation id => Answer.field <$> e.index.fieldFor operation id
  | .group operation id => Answer.group <$> e.index.groupFor operation id
  | .component operation id => Answer.component <$> e.index.componentFor operation id
  | .codeSet f => Answer.codeSet <$> e.index.codeSetOf f
  | .usedFieldIds layer framed messages =>
    Answer.fieldIds <$> e.index.usedFieldIds layer framed messages
  | .fieldClass f => (fun a => Answer.artifact (some a)) <$> e.describeField f
  | .groupClass package g => Answer.artifact <$> e.describeGroup package g
  | .componentClass package c =>
    (fun a => Answer.artifact (some a)) <$> e.describeComponent package c
  | .messageClass package componentsPackage m =>
    (fun a => Answer.artifact (some a)) <$> e.describeMessage package componentsPackage m
  | .messageBase version => pure (.artifact (some (e.describeMessageBase version)))
  | .factory messages => (fun a => Answer.artifact (some a)) <$> e.describeFactory messages
  | .cracker messages => (fun a => Answer.artifact (some a)) <$> e.describeCracker messages

/-- Indexes that answer alike answer all requests alike. -/
theorem Index.SameLookUps.answer {i j : Index} (same : i.SameLookUps j) (layout : Layout)
    (layer : SessionLayer) (q : Request) :
    (⟨i, layout, layer⟩ : Context).answer q = (⟨j, layout, layer⟩ : Context).answer q := by
  cases q with
  | field operation id => simp only [Context.answer, same.fieldFor]
  | group operation id => simp only [Context.answer, same.groupFor]
  | component operation id =>
    simp only [Context.answer, Index.componentFor, same.component?]
  | codeSet f => simp only [Context.answer, same.codeSetOf]
  | usedFieldIds layer framed messages =>
    simp only [Context.answer, Index.usedFieldIds, same.fieldIds]
  | fieldClass f => simp only [Context.answer, same.describeField]
  | groupClass package g => simp only [Context.answer, same.describeGroup]
  | componentClass package c => simp only [Context.answer, same.describeComponent]
  | messageClass package componentsPackage m => simp only [Context.answer, same.describeMessage]
  | messageBase version => rfl
  | factory messages => simp only [Context.answer, same.describeFactory]
  | cracker messages => rfl

namespace Repository

section

variable (r : Repository) (options : Options) (layer : SessionLayer)

/-- The requests for the fields that the two layers use. -/
def usageRequests : List Request :=
  [.usedFieldIds layer options.entersFrame (layer.splitMessages r.distinct.messages).1,
    .usedFieldIds layer options.entersFrame (layer.splitMessages r.distinct.messages).2]

/-- The requests for the classes of fields. -/
def fieldRequests : List Request :=
  (describedFields options (r.usage options layer) r.distinct.fields).map .fieldClass

/-- The requests for the classes of the groups of a layer. -/
def groupRequests (session : Bool) : List Request :=
  (r.distinct.groups.filter fun g => layer.ownsGroup g == session).map
    (.groupClass ((r.context options layer).layout.componentsPackageOf session))

/-- The requests for the classes of components. -/
def componentRequests : List Request :=
  (describedComponents options layer r.distinct.components).map
    (.componentClass (r.context options layer).layout.componentsPackage)

/-- The requests for the classes of the messages of a layer. -/
def messageRequests (session : Bool) : List Request :=
  (r.distinct.messages.filter fun m => layer.ownsMessage m == session).map
    (.messageClass ((r.context options layer).layout.messagesPackageOf session)
      ((r.context options layer).layout.componentsPackageOf session))

/-- The requests for the classes that there are one of each. -/
def singleRequests : List Request :=
  (if options.messageBase then [.messageBase r.version] else []) ++
  [.factory (layer.splitMessages r.distinct.messages).1,
    .cracker (layer.splitMessages r.distinct.messages).1]

/-- The requests that a description of a repository makes, in order. -/
def requests : List Request :=
  r.usageRequests options layer ++ r.fieldRequests options layer ++
    options.layers.flatMap (r.groupRequests options layer) ++ r.componentRequests options layer ++
    options.layers.flatMap (r.messageRequests options layer) ++ r.singleRequests options layer

/-- The classes that come of requests. -/
def classesOf (requests : List Request) : List Artifact :=
  requests.filterMap fun q => ((r.context options layer).answer q).value.artifact?

/-- What there is to remark on in the answers to requests. -/
def remarksOf (requests : List Request) : List Remark :=
  requests.flatMap fun q => ((r.context options layer).answer q).remarks

/-! ### Pass by pass -/

theorem classesOf_append (first second : List Request) :
    r.classesOf options layer (first ++ second) =
      r.classesOf options layer first ++ r.classesOf options layer second :=
  List.filterMap_append

theorem classesOf_flatMap (f : Bool → List Request) (sessions : List Bool) :
    r.classesOf options layer (sessions.flatMap f) =
      sessions.flatMap fun session => r.classesOf options layer (f session) :=
  List.filterMap_flatMap

theorem classesOf_fieldRequests :
    r.classesOf options layer (r.fieldRequests options layer) = r.fieldClasses options layer := by
  rw [classesOf, fieldRequests, List.filterMap_map, fieldClasses, ← List.filterMap_eq_map]
  rfl

theorem classesOf_groupRequests (session : Bool) :
    r.classesOf options layer (r.groupRequests options layer session) =
      r.groupClasses options layer session := by
  rw [classesOf, groupRequests, List.filterMap_map]
  rfl

theorem classesOf_componentRequests : r.classesOf options layer
    (r.componentRequests options layer) = r.componentClasses options layer := by
  rw [classesOf, componentRequests, List.filterMap_map, componentClasses,
    ← List.filterMap_eq_map]
  rfl

theorem classesOf_messageRequests (session : Bool) :
    r.classesOf options layer (r.messageRequests options layer session) =
      r.messageClasses options layer session := by
  rw [classesOf, messageRequests, List.filterMap_map, messageClasses, ← List.filterMap_eq_map]
  rfl

theorem classesOf_singleRequests :
    r.classesOf options layer (r.singleRequests options layer) = r.singleClasses options layer := by
  rw [singleRequests, singleClasses]
  cases options.messageBase <;> rfl

/-- **The classes of a repository are the classes among the answers.** -/
theorem artifacts_eq_classesOf :
    r.artifacts options layer = r.classesOf options layer (r.requests options layer) := by
  have usage : r.classesOf options layer (r.usageRequests options layer) = [] := rfl
  simp only [artifacts_eq, requests, classesOf_append, classesOf_flatMap, usage, List.nil_append,
    classesOf_fieldRequests, classesOf_groupRequests, classesOf_componentRequests,
    classesOf_messageRequests, classesOf_singleRequests]

/-- **What there is to remark on in a description** is what there is in the index, and then in the
answer to each request. -/
theorem remarks_describe : (describe options layer r).remarks =
    (Index.ofRepository r).remarks ++ r.remarksOf options layer (r.requests options layer) := by
  rw [remarksOf, requests, Options.layers]
  cases hs : options.emitsSession <;> cases hb : options.messageBase <;>
    simp [describe, hs, hb, Traced.remarks_mapM, context, usage, index, usageRequests,
      fieldRequests, groupRequests, componentRequests, messageRequests, singleRequests,
      Context.answer, Index.usage, List.flatMap_map, SessionLayer.splitGroups,
      SessionLayer.splitMessages, Layout.componentsPackageOf, Layout.messagesPackageOf]

end

end Repository
end FixBindings
