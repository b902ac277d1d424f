import FixBindings.Document.Display

/-!
# Looking into documents

The entry under a key, the items of a collection and the integer that a document gives, each with
the fault that says why there is none.
-/

set_option autoImplicit false

namespace FixBindings

/-- Why a document cannot be used as asked.  A `kind` is the name of the kind of the document. -/
inductive DocumentFault where
  /-- A mapping has no such key. -/
  | missingKey (key : String)
  /-- A sequence was asked for the entry under a key. -/
  | keyOfSequence (kind : String)
  /-- A document without entries was asked for the entry under a key. -/
  | notSubscriptable (kind : String)
  /-- A document that is no mapping was asked for an entry that may be missing. -/
  | notMapping (kind : String)
  | notIterable (kind : String)
  /-- A document of a kind that stands for no integer. -/
  | notInteger (kind : String)
  /-- A text that is no integer literal, quoted. -/
  | integerLiteral (quoted : String)
  | integerTooLong (digits : Nat)
  /-- A text needs an integer that is too long to be written. -/
  | integerUnwritten
  | infinity
  | notANumber
  /-- A document that cannot serve as a key. -/
  | unhashable (kind : String)
  /-- A document that should be a text. -/
  | notText (kind : String)
  /-- Octets that should be a text. -/
  | bytesForText
deriving Repr, DecidableEq

/-- The kinds of faults that documents give rise to. -/
inductive FaultKind where
  | missingKey
  | wrongType
  | wrongValue
  | missingAttribute
  | overflow
deriving Repr, DecidableEq

namespace DocumentFault

/-- The kind of a fault. -/
def kind : DocumentFault → FaultKind
  | .missingKey _ => .missingKey
  | .notMapping _ => .missingAttribute
  | .integerLiteral _ | .integerTooLong _ | .integerUnwritten | .notANumber => .wrongValue
  | .infinity => .overflow
  | .keyOfSequence _ | .notSubscriptable _ | .notIterable _ | .notInteger _ | .unhashable _
  | .notText _ | .bytesForText => .wrongType

/-- The text of a fault that is due to the limit on the digits of integers. -/
def limitMessage (found : String) : String :=
  "Exceeds the limit (" ++ toString Number.maxDigits ++ " digits) for integer string conversion"
    ++ found ++ "; use sys.set_int_max_str_digits() to increase the limit"

/-- The limit on the digits of integers that are read, as a text. -/
def tooLongMessage (digits : Nat) : String :=
  limitMessage (": value has " ++ toString digits ++ " digits")

/-- The text of a fault. -/
def message : DocumentFault → String
  | .missingKey key => Quoted.text key
  | .keyOfSequence kind =>
    if kind == "str" then "string indices must be integers, not 'str'"
    else (if kind == "bytes" then "byte" else kind) ++ " indices must be integers or slices, not str"
  | .notSubscriptable kind => "'" ++ kind ++ "' object is not subscriptable"
  | .notMapping kind => "'" ++ kind ++ "' object has no attribute 'get'"
  | .notIterable kind => "'" ++ kind ++ "' object is not iterable"
  | .notInteger kind =>
    "int() argument must be a string, a bytes-like object or a real number, not '" ++ kind ++ "'"
  | .integerLiteral quoted => "invalid literal for int() with base 10: " ++ quoted
  | .integerTooLong digits => tooLongMessage digits
  | .integerUnwritten => limitMessage ""
  | .infinity => "cannot convert float infinity to integer"
  | .notANumber => "cannot convert float NaN to integer"
  | .unhashable kind => "unhashable type: '" ++ kind ++ "'"
  | .notText kind => "expected string or bytes-like object, got '" ++ kind ++ "'"
  | .bytesForText => "cannot use a string pattern on a bytes-like object"

end DocumentFault

namespace Document

/-- The entry under a key. -/
def entry (d : Document) (key : String) : Except DocumentFault Document :=
  match d with
  | .map entries =>
    match lookup? (.text key) entries with
    | some value => .ok value
    | none => .error (.missingKey key)
  | .text _ | .bytes _ | .seq _ | .pair _ _ => .error (.keyOfSequence d.kindName)
  | _ => .error (.notSubscriptable d.kindName)

/-- The entry under a key that may be missing. -/
def entry? (d : Document) (key : String) : Except DocumentFault (Option Document) :=
  match d with
  | .map entries => .ok (lookup? (.text key) entries)
  | _ => .error (.notMapping d.kindName)

/-- The entry under a key, or a value that stands in for a missing one. -/
def entryD (d : Document) (key : String) (default : Document) :
    Except DocumentFault Document :=
  return (← d.entry? key).getD default

/-- The items of a collection: the characters of a text, the keys of a mapping. -/
def items (d : Document) : Except DocumentFault (List Document) :=
  match d with
  | .seq items | .set items => .ok items
  | .pair k v => .ok [k, v]
  | .map entries => .ok (entries.map (·.1))
  | .text s => .ok (s.toList.map fun c => .text c.toString)
  | .bytes octets => .ok (octets.map fun b => .int b.toNat)
  | _ => .error (.notIterable d.kindName)

/-- The first characters of a quoted text that a message shows. -/
def shownLiteral (quoted : String) : String :=
  String.ofList (quoted.toList.take 200)

/-- Reads an integer literal that `quoted` shows in a message. -/
def readInteger (s quoted : String) : Except DocumentFault Int :=
  match Number.readInteger 10 s with
  | .ok n => .ok n
  | .error .notLiteral => .error (.integerLiteral (shownLiteral quoted))
  | .error (.tooLong digits) => .error (.integerTooLong digits)

/-- The characters of octets, where one beyond ASCII stands for no digit. -/
def asciiText (octets : List UInt8) : String :=
  String.ofList (octets.map fun b => if b < 0x80 then Char.ofNat b.toNat else '?')

/-- The integer that a document gives: a number cut to its whole part, or a literal. -/
def toInteger (d : Document) : Except DocumentFault Int :=
  match d with
  | .bool b => .ok (if b then 1 else 0)
  | .int n => .ok n
  | .real x =>
    match Number.wholePart? x with
    | some n => .ok n
    | none => .error (if Number.isInfinite x then .infinity else .notANumber)
  | .text s => readInteger s (Quoted.text s)
  | .bytes octets => readInteger (asciiText octets) (Quoted.octets octets)
  | _ => .error (.notInteger d.kindName)

/-- The text of a document that has to be one. -/
def toText (d : Document) : Except DocumentFault String :=
  match d with
  | .text s => .ok s
  | .bytes _ => .error .bytesForText
  | _ => .error (.notText d.kindName)

/-- Refuses documents whose text needs an integer that is too long to be written. -/
def checkWritten (d : Document) : Except DocumentFault Unit :=
  if d.holdsLongInteger then .error .integerUnwritten else .ok ()

/-- Refuses documents that cannot serve as a key. -/
def checkKey (d : Document) : Except DocumentFault Unit :=
  match d.unhashableKind? with
  | some kind => .error (.unhashable kind)
  | none => .ok ()

end Document
end FixBindings
