import FixBindings.Artifact.Dispatch
import FixBindings.Schema.Usage

/-!
# The classes of a repository

A repository gives the classes of its fields, of the groups of general use and of those of the
session layer, of its components, of the messages of the application layer and of the session
layer, then the message base, the message factory and the message cracker, in this order.  Of
repeated declarations the first one counts.  What the session layer needs is left out if the
options say so, and so are the fields that it uses and those that no message uses.
-/

set_option autoImplicit false

namespace FixBindings
namespace Context

/-- The base class of decimal fields. -/
def decimalClass (o : Options) : FieldKind := if o.extendedDecimal then .decimal else .double

/-- The class of a field. -/
def describeField (e : Context) (f : Field) : Traced Artifact := do
  let codeSet? ← e.index.codeSetOf f
  let type := (codeSet?.map CodeSet.type).getD f.type
  let name ← className f.name
  Traced.ofExcept () type.checkKey
  let constants ← (codeSet?.map CodeSet.constants).getD (pure [])
  return {
    package := fieldsPackage
    className := name
    body := .field f.id type (.ofType (decimalClass e.layout.options) type) constants
      e.layout.options.extendedDecimal }

/-- The ids of the fields among members. -/
def directFields (members : List Member) : List Int :=
  members.filterMap fun
    | .field id => some id
    | _ => none

/-- The class of a component. -/
def describeComponent (e : Context) (package : String) (c : Component) : Traced Artifact := do
  let accessors ← e.accessorsOf package c.members [.component c.id]
  let name ← className c.name
  return {
    package
    className := name
    body := .component c.id (directFields c.members) [] (unique accessors) false }

/-- The class of a group, which there is none of if its counter is missing. -/
def describeGroup (e : Context) (package : String) (g : Group) : Traced (Option Artifact) := do
  let counter? ← e.index.fieldFor .group g.counter
  match counter? with
  | none => return none
  | some counter => do
    let counterName ← FixBindings.className counter.name
    let inner ← e.repetitionOf package g counter [.group g.id]
    let accessors ← e.accessorsOf package g.members [.group g.id]
    let name ← FixBindings.className g.name
    return some {
      package
      className := name
      body := .component g.id [] [counter.id]
        (unique (.field counterName counter.id :: inner :: accessors)) true }

/-- The class of a message. -/
def describeMessage (e : Context) (package componentsPackage : String) (m : Message) :
    Traced Artifact := do
  let accessors ← e.accessorsOf componentsPackage m.members []
  let name ← m.className
  return {
    package
    className := name
    body := .message m.name m.scenario m.msgType (unique accessors) }

/-- The class that all messages extend. -/
def describeMessageBase (e : Context) (version : String) : Artifact where
  package := e.layout.messagesPackage
  className := "Message"
  body := .messageBase (beginString version)

end Context

/-- The first declarations of a repository. -/
def Repository.distinct (r : Repository) : Repository :=
  { r with
    fields := Context.firstOf (fun f g => f.id == g.id) r.fields
    components := Context.firstOf (fun c d => c.id == d.id) r.components
    groups := Context.firstOf (fun g h => g.id == h.id) r.groups
    messages := Context.firstOf Message.sameScenario r.messages }

/-- The classes of a repository with what they were made from. -/
structure Description where
  artifacts : List Artifact
  layout : Layout
  usage : Usage
  index : Index
deriving Inhabited

/-- The fields whose classes are generated. -/
def describedFields (o : Options) (usage : Usage) (fields : List Field) : List Field :=
  if o.excludeSession then fields.filter fun f => usage.application.contains f.id else fields

/-- The components whose classes are generated. -/
def describedComponents (o : Options) (layer : SessionLayer) (components : List Component) :
    List Component :=
  if o.messageBase then components else components.filter fun c => !layer.isFrame c.id

/-- The classes of a repository. -/
def describe (options : Options) (layer : SessionLayer) (r : Repository) : Traced Description := do
  let index ← Index.ofRepository r
  let first := r.distinct
  let (application, session) := layer.splitMessages first.messages
  let (general, sessionOnly) := layer.splitGroups first.groups
  let usage ← index.usage layer options.entersFrame application session
  let layout := Layout.ofVersion options r.version
  let e : Context := { index, layout, layer }
  let fields ← (describedFields options usage first.fields).mapM e.describeField
  let groups ← general.mapM (e.describeGroup layout.componentsPackage)
  let sessionGroups ←
    if options.emitsSession then sessionOnly.mapM (e.describeGroup layout.sessionComponentsPackage)
    else pure []
  let components ← (describedComponents options layer first.components).mapM
    (e.describeComponent layout.componentsPackage)
  let messages ← application.mapM (e.describeMessage layout.messagesPackage layout.componentsPackage)
  let sessionMessages ←
    if options.emitsSession then
      session.mapM (e.describeMessage layout.sessionMessagesPackage layout.sessionComponentsPackage)
    else pure []
  let base := if options.messageBase then [e.describeMessageBase r.version] else []
  let factory ← e.describeFactory application
  let cracker ← e.describeCracker application
  return {
    artifacts := fields ++ (groups ++ sessionGroups).filterMap id ++ components ++ messages
      ++ sessionMessages ++ base ++ [factory, cracker]
    layout, usage, index }

end FixBindings
