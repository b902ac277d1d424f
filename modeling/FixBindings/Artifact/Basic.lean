import FixBindings.Artifact.FieldKind
import FixBindings.Layout
import FixBindings.Schema.Basic
import FixBindings.Schema.Diagnostic
import FixBindings.Schema.Naming

/-!
# Descriptions of generated classes

An artifact describes one class to generate: its package and name, and by its body the constants,
accessors and cases that it holds.  Nothing in it depends on how the class is written down.
-/

set_option autoImplicit false

namespace FixBindings

/-- The value of a constant, which also says what type it has. -/
inductive ConstantValue where
  | boolean (b : Bool)
  | char (s : String)
  | int (s : String)
  | string (s : String)
deriving Repr, DecidableEq, Inhabited

/-- The type of a constant. -/
def ConstantValue.typeName : ConstantValue → String
  | .boolean _ => "boolean"
  | .char _ => "char"
  | .int _ => "int"
  | .string _ => "String"

/-- A named value of a field. -/
structure Constant where
  name : String
  value : ConstantValue
deriving Repr, DecidableEq, Inhabited

/-- The value of a constant for a value on the wire, by the declared type of the code set. -/
def ConstantValue.ofWire (type : Document) (value : String) : ConstantValue :=
  match type with
  | .text "Boolean" => .boolean (value == "Y")
  | .text "char" => .char value
  | .text "int" => .int value
  | _ => .string value

/-- A name in the case of classes. -/
def className (name : Document) : Traced String := do
  return Naming.titleCase (← Traced.ofExcept "" name.toText)

/-- A name in the case of constants. -/
def constantName (name : Document) : Traced String := do
  return Naming.constantName (← Traced.ofExcept "" name.toText)

/-- One constant for each code. -/
def CodeSet.constants (c : CodeSet) : Traced (List Constant) := do
  Traced.ofExcept () c.type.checkKey
  c.codes.mapM fun code => do
    return ⟨← constantName code.name, .ofWire c.type code.value⟩

/-- The class name of a message, to which its scenario belongs unless it is the canonical one. -/
def Message.className (m : Message) : Traced String := do
  let name ← FixBindings.className m.name
  if m.isBase then return name else return name ++ (← FixBindings.className m.scenario)

/-- What gives access to a part of a message. -/
inductive Accessor where
  | field (name : String) (id : Int)
  | component (name qualifiedName : String)
  /-- An inner class for one repetition of a group, named for the field that counts the
  repetitions.  `order` holds the ids of the fields of a repetition and ends in `orderEnd`, and
  `delimiter` is the field that a repetition begins with. -/
  | group (name : String) (counter delimiter : Int) (order : List Int)
      (accessors : List Accessor)
deriving Repr, Inhabited

namespace Accessor

/-- The number that ends the order of the fields of a repetition. -/
def orderEnd : Int := 0

/-- The name of what is accessed. -/
def name : Accessor → String
  | .field name _ => name
  | .component name _ => name
  | .group name _ _ _ _ => name

/-- The class of a field. -/
def fieldClass (name : String) : String := fieldsPackage ++ "." ++ name

/-- Whether two accessors are of one kind and have one name. -/
def sameSlot : Accessor → Accessor → Bool
  | .field m _, .field n _ => m == n
  | .component m _, .component n _ => m == n
  | .group m _ _ _ _, .group n _ _ _ _ => m == n
  | _, _ => false

/-- The inner class for one repetition of a group. -/
def repetition (name : String) (counter : Int) (order : List Int) (accessors : List Accessor) :
    Accessor :=
  .group name counter (order.head?.getD orderEnd) (order ++ [orderEnd]) accessors

end Accessor

/-- A group within a message that can be created by the id of its counter. -/
structure CounterCase where
  counterName : String
  /-- The inner class of the group. -/
  qualifiedName : String
deriving Repr, DecidableEq, Inhabited

/-- The groups within one message. -/
structure MessageCases where
  messageName : String
  cases : List CounterCase
deriving Repr, DecidableEq, Inhabited

/-- What a class holds. -/
inductive ArtifactBody where
  /-- A class of a field. -/
  | field (id : Int) (type : Document) (kind : FieldKind) (constants : List Constant)
      (extendedDecimal : Bool)
  /-- A class of a component or of a group. -/
  | component (id : Int) (fields counters : List Int) (accessors : List Accessor)
      ( isGroup : Bool)
  | message (name scenario : Document) (msgType : String) (accessors : List Accessor)
  /-- The class that all messages extend. -/
  | messageBase (beginString : String)
  /-- The class that creates messages and groups. -/
  | messageFactory (messageNames : List String) (cases : List MessageCases)
      (fallback : String)
  /-- The class that hands messages to the method for their type. -/
  | messageCracker (messageNames : List String) (method : String)
  /-- A class of which nothing is known. -/
  | bare
deriving Inhabited

/-- A class to generate. -/
structure Artifact where
  package : String
  className : String
  body : ArtifactBody
deriving Inhabited

namespace Artifact

/-- The name of the class with its package. -/
def qualifiedName (a : Artifact) : String := a.package ++ "." ++ a.className

/-- The name of the kind of an artifact. -/
def kindName (a : Artifact) : String :=
  match a.body with
  | .field .. => "field"
  | .component .. => "component"
  | .message .. => "message"
  | .messageBase .. => "message_base"
  | .messageFactory .. => "message_factory"
  | .messageCracker .. => "message_cracker"
  | .bare => "artifact"

/-- The accessors of the class of a message, a component or a group. -/
def accessors (a : Artifact) : List Accessor :=
  match a.body with
  | .component _ _ _ accessors _ => accessors
  | .message _ _ _ accessors => accessors
  | _ => []

/-- The file of the class. -/
def path (output : Path) (a : Artifact) : Path := Layout.fileOf output a.package a.className

end Artifact

/-- The BeginString of messages of a version. -/
def beginString (version : String) : String :=
  let base := baseVersion version
  if base.startsWith "FIX.5" || base == "FIX.Latest" then "FIXT.1.1" else base

end FixBindings
