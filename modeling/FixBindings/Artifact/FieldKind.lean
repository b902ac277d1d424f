import FixBindings.Document.Access

/-!
# Base classes of fields

Every data type of a field has a base class for its values.  Types that are not known have texts
for values, and decimal types have the base class that the options choose.
-/

set_option autoImplicit false

namespace FixBindings

/-- The base classes of fields. -/
inductive FieldKind where
  | char
  | decimal
  | double
  | int
  | utcTimestamp
  | utcTimeOnly
  | utcDateOnly
  | boolean
  | string
deriving Repr, DecidableEq, Inhabited

namespace FieldKind

/-- All base classes. -/
def all : List FieldKind :=
  [.char, .decimal, .double, .int, .utcTimestamp, .utcTimeOnly, .utcDateOnly, .boolean, .string]

/-- The name of a base class. -/
def className : FieldKind → String
  | .char => "CharField"
  | .decimal => "DecimalField"
  | .double => "DoubleField"
  | .int => "IntField"
  | .utcTimestamp => "UtcTimeStampField"
  | .utcTimeOnly => "UtcTimeOnlyField"
  | .utcDateOnly => "UtcDateOnlyField"
  | .boolean => "BooleanField"
  | .string => "StringField"

/-- The base class of a name. -/
def ofClassName? (name : String) : Option FieldKind := all.find? (·.className == name)

/-- Whether values are dates or times. -/
def isTemporal : FieldKind → Bool
  | .utcTimestamp | .utcTimeOnly | .utcDateOnly => true
  | _ => false

/-- The types whose values are decimals. -/
def decimalTypes : List String := ["Price", "Amt", "Qty", "PriceOffset"]

/-- The base class of a type that is not decimal. -/
def ofPlainType : String → FieldKind
  | "char" => .char
  | "int" | "NumInGroup" | "SeqNum" | "Length" | "TagNum" | "DayOfMonth" => .int
  | "UTCTimestamp" => .utcTimestamp
  | "UTCTimeOnly" | "LocalMktTime" => .utcTimeOnly
  | "UTCDateOnly" | "LocalMktDate" => .utcDateOnly
  | "Boolean" => .boolean
  | "float" | "Percentage" => .double
  | _ => .string

/-- Whether a document is the name of a decimal type. -/
def isDecimalType (type : Document) : Bool := type.text?.any decimalTypes.contains

/-- The base class of a type, where `decimalClass` is that of decimal types. -/
def ofType (decimalClass : FieldKind) (type : Document) : FieldKind :=
  if isDecimalType type then decimalClass else (type.text?.map ofPlainType).getD .string

/-- Why a type has no base class. -/
inductive Fault where
  | document (fault : DocumentFault)
  /-- The class chosen for decimal types, quoted, is none of the base classes. -/
  | noClass (quoted : String)
deriving Repr, DecidableEq

/-- The text of a fault. -/
def Fault.message : Fault → String
  | .document fault => fault.message
  | .noClass quoted => quoted ++ " is not a valid FieldKind"

/-- The base class of a type, where the class of decimal types is given by name and matters for
decimal types only. -/
def ofTypeNamed (decimalName type : Document) : Except Fault FieldKind := do
  type.checkKey.mapError .document
  if isDecimalType type then
    match decimalName.text?.bind ofClassName? with
    | some kind => return kind
    | none => throw (.noClass decimalName.quoted)
  else return ofType .decimal type

end FieldKind
end FixBindings
