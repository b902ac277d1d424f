import FixBindings.Document.Access
import FixBindings.Schema.Basic

/-!
# Repositories as documents

The document of a repository is a mapping of lists of mappings.  A member is a mapping with the
single key `fieldRef`, `groupRef` or `componentRef`.  Reading takes ids from anything that stands
for an integer and wire values from the text of any document, and keeps the other slots as they
are.
-/

set_option autoImplicit false

namespace FixBindings

/-- Why a document is no repository. -/
inductive FormatFault where
  | notMapping
  /-- A member is no mapping with one key; the member is quoted. -/
  | memberShape (quoted : String)
  /-- The key of a member is none of the three. -/
  | memberKind (key : String)
  /-- Some part of the document cannot be used as it should be. -/
  | invalid (fault : DocumentFault)
deriving Repr, DecidableEq

/-- The text of a fault. -/
def FormatFault.message : FormatFault → String
  | .notMapping => "Repository document must be a mapping"
  | .memberShape quoted => "Member must be a single-key mapping, got: " ++ quoted
  | .memberKind key => "Unsupported member kind: " ++ key
  | .invalid fault => "Invalid repository document: " ++ fault.message

/-- Why a part of a repository is not read from a document. -/
inductive DecodeFault where
  | document (fault : DocumentFault)
  | format (fault : FormatFault)
deriving Repr, DecidableEq

/-- The text of a fault. -/
def DecodeFault.message : DecodeFault → String
  | .document fault => fault.message
  | .format fault => fault.message

/-- The result of reading a part of a repository. -/
abbrev Decoded (α : Type) := Except DecodeFault α

instance : MonadLift (Except DocumentFault) (Except DecodeFault) where
  monadLift x := x.mapError .document

namespace Member

/-- The members that a key stands for, by their ids. -/
def ofKey? (key : Document) : Option (Int → Member) :=
  match key with
  | .text "fieldRef" => some .field
  | .text "groupRef" => some .group
  | .text "componentRef" => some .component
  | _ => none

/-- A member as a document. -/
def toDocument : Member → Document
  | .field id => .map [(.text "fieldRef", .int id)]
  | .group id => .map [(.text "groupRef", .int id)]
  | .component id => .map [(.text "componentRef", .int id)]

/-- Reads a member. -/
def ofDocument (d : Document) : Decoded Member :=
  match d with
  | .map [(key, value)] =>
    match ofKey? key with
    | none => do
      key.checkWritten
      throw (.format (.memberKind key.display))
    | some member => return member (← value.toInteger)
  | _ => do
    d.checkWritten
    throw (.format (.memberShape d.quoted))

/-- Reads a list of members that may be missing or empty in any way. -/
def listOfDocument (d? : Option Document) : Decoded (List Member) := do
  let d := d?.getD .null
  if d.truthy then (← d.items).mapM ofDocument else return []

end Member

namespace Field

/-- A field as a document. -/
def toDocument (f : Field) : Document :=
  .map [(.text "id", .int f.id), (.text "name", f.name), (.text "type", f.type),
    (.text "code_set", f.codeSet)]

/-- Reads a field. -/
def ofDocument (d : Document) : Decoded Field := do
  let id ← (← d.entry "id").toInteger
  let name ← d.entry "name"
  let type ← d.entryD "type" (.text "String")
  let codeSet ← d.entryD "code_set" .null
  return { id, name, type, codeSet }

end Field

namespace Code

/-- A code as a document. -/
def toDocument (c : Code) : Document :=
  .map [(.text "name", c.name), (.text "value", .text c.value), (.text "id", c.id)]

/-- Reads a code. -/
def ofDocument (d : Document) : Decoded Code := do
  let name ← d.entry "name"
  let value ← d.entry "value"
  value.checkWritten
  let id ← d.entryD "id" .null
  return { name, value := value.display, id }

end Code

namespace CodeSet

/-- A code set as a document. -/
def toDocument (c : CodeSet) : Document :=
  .map [(.text "name", c.name), (.text "id", c.id), (.text "type", c.type),
    (.text "codes", .seq (c.codes.map Code.toDocument))]

/-- Reads a code set. -/
def ofDocument (d : Document) : Decoded CodeSet := do
  let codes ← (← (← d.entryD "codes" (.seq [])).items).mapM Code.ofDocument
  let name ← d.entry "name"
  let type ← d.entryD "type" (.text "String")
  let id ← d.entryD "id" .null
  return { name, type, codes, id }

end CodeSet

namespace Component

/-- A component as a document. -/
def toDocument (c : Component) : Document :=
  .map [(.text "id", .int c.id), (.text "name", c.name),
    (.text "members", .seq (c.members.map Member.toDocument))]

/-- Reads a component. -/
def ofDocument (d : Document) : Decoded Component := do
  let id ← (← d.entry "id").toInteger
  let name ← d.entry "name"
  let members ← Member.listOfDocument (← d.entry? "members")
  return { id, name, members }

end Component

namespace Group

/-- A group as a document. -/
def toDocument (g : Group) : Document :=
  .map [(.text "id", .int g.id), (.text "name", g.name), (.text "num_in_group", .int g.counter),
    (.text "members", .seq (g.members.map Member.toDocument))]

/-- Reads a group. -/
def ofDocument (d : Document) : Decoded Group := do
  let id ← (← d.entry "id").toInteger
  let name ← d.entry "name"
  let counter ← (← d.entry "num_in_group").toInteger
  let members ← Member.listOfDocument (← d.entry? "members")
  return { id, name, counter, members }

end Group

namespace Message

/-- A message as a document. -/
def toDocument (m : Message) : Document :=
  .map [(.text "name", m.name), (.text "id", m.id), (.text "msg_type", .text m.msgType),
    (.text "category", m.category), (.text "scenario", m.scenario),
    (.text "members", .seq (m.members.map Member.toDocument))]

/-- Reads a message. -/
def ofDocument (d : Document) : Decoded Message := do
  let name ← d.entry "name"
  let msgType ← d.entry "msg_type"
  msgType.checkWritten
  let category ← d.entryD "category" (.text "")
  let scenario ← d.entryD "scenario" (.text baseScenario)
  let members ← Member.listOfDocument (← d.entry? "members")
  let id ← d.entryD "id" .null
  return { name, msgType := msgType.display, category, scenario, members, id }

end Message

namespace Repository

/-- A repository as a document. -/
def toDocument (r : Repository) : Document :=
  .map [(.text "name", r.name), (.text "version", .text r.version),
    (.text "fields", .seq (r.fields.map Field.toDocument)),
    (.text "code_sets", .seq (r.codeSets.map CodeSet.toDocument)),
    (.text "components", .seq (r.components.map Component.toDocument)),
    (.text "groups", .seq (r.groups.map Group.toDocument)),
    (.text "messages", .seq (r.messages.map Message.toDocument))]

/-- Reads the list of declarations under a key, which may be missing. -/
def declarations {α : Type} (d : Document) (key : String) (read : Document → Decoded α) :
    Decoded (List α) := do
  (← (← d.entryD key (.seq [])).items).mapM read

/-- Reads the parts of a repository. -/
def partsOfDocument (d : Document) : Decoded Repository := do
  let name ← d.entryD "name" (.text "")
  let version ← d.entryD "version" (.text "")
  version.checkWritten
  let fields ← declarations d "fields" Field.ofDocument
  let codeSets ← declarations d "code_sets" CodeSet.ofDocument
  let components ← declarations d "components" Component.ofDocument
  let groups ← declarations d "groups" Group.ofDocument
  let messages ← declarations d "messages" Message.ofDocument
  return { name, version := version.display, fields, codeSets, components, groups, messages }

/-- A fault in some part as a fault of the whole: what the document lacks or holds wrongly makes it
an invalid repository document, while a part that is asked for entries without being a mapping and
an infinite id stay faults of their own. -/
def wholeFault : DecodeFault → DecodeFault
  | .format fault => .format fault
  | .document fault =>
    match fault.kind with
    | .missingKey | .wrongType | .wrongValue => .format (.invalid fault)
    | .missingAttribute | .overflow => .document fault

/-- Reads a repository. -/
def ofDocument (d : Document) : Decoded Repository :=
  match d with
  | .map _ => (partsOfDocument d).mapError wholeFault
  | _ => .error (.format .notMapping)

end Repository
end FixBindings
