import FixBindings.Document.Basic

/-!
# Message schemas

A repository declares the fields, code sets, components, repeating groups and messages of one
version of a message dialect.  Components, groups and messages are lists of members, and a member
refers to a field, a group or a component by its id.  Ids are integers and wire values are texts;
names, types and the other slots hold whatever document was declared for them.
-/

set_option autoImplicit false

namespace FixBindings

/-- One value that a field may take. -/
structure Code where
  name : Document
  /-- The value on the wire. -/
  value : String
  id : Document := .null
deriving BEq, Inhabited

/-- The values that a field may take. -/
structure CodeSet where
  name : Document
  /-- The declared type of the values. -/
  type : Document
  codes : List Code := []
  id : Document := .null
deriving BEq, Inhabited

/-- A field, whose id is its tag on the wire. -/
structure Field where
  id : Int
  name : Document
  /-- The type of the values, or the name of a code set. -/
  type : Document
  /-- The name of the code set, where one is declared. -/
  codeSet : Document := .null
deriving BEq, Inhabited

/-- A reference to something declared elsewhere. -/
inductive Member where
  | field (id : Int)
  | group (id : Int)
  | component (id : Int)
deriving Repr, DecidableEq, Inhabited

/-- A named list of members for reuse. -/
structure Component where
  id : Int
  name : Document
  members : List Member := []
deriving BEq, Inhabited

/-- A list of members that repeats, preceded on the wire by the number of repetitions. -/
structure Group where
  id : Int
  name : Document
  /-- The id of the field that counts the repetitions. -/
  counter : Int
  members : List Member := []
deriving BEq, Inhabited

/-- The scenario of the canonical definition of a message. -/
def baseScenario : String := "base"

/-- A message. -/
structure Message where
  name : Document
  /-- The message type on the wire. -/
  msgType : String
  category : Document := .text ""
  /-- What tells several definitions of one message apart. -/
  scenario : Document := .text baseScenario
  members : List Member := []
  id : Document := .null
deriving BEq, Inhabited

/-- Whether a message is the canonical definition. -/
def Message.isBase (m : Message) : Bool := m.scenario.same (.text baseScenario)

/-- Whether two messages define the same scenario of the same message. -/
def Message.sameScenario (m n : Message) : Bool :=
  m.name.same n.name && m.scenario.same n.scenario

/-- One version of a message dialect. -/
structure Repository where
  name : Document := .text ""
  version : String := ""
  fields : List Field := []
  codeSets : List CodeSet := []
  components : List Component := []
  groups : List Group := []
  messages : List Message := []
deriving BEq, Inhabited

end FixBindings
