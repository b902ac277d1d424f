import FixBindings.Number.Integer
import FixBindings.Unicode.ClassTable
import FixBindings.Xml.Fault
import FixBindings.Xml.NameTable

/-!
# Names and references in XML texts

The smallest parts of a document.  Names may be qualified by one colon, which is no character of a
name itself.  A reference stands for a character by its number, or for an entity by its name.
-/

set_option autoImplicit false

namespace FixBindings
namespace Xml

/-! ## Characters -/

/-- Whether a document may hold a character. -/
def isLegal (c : Char) : Bool :=
  c == '\t' || c == '\n' || c == '\r'
    || (decide (0x20 ≤ c.toNat) && c.toNat != 0xFFFE && c.toNat != 0xFFFF)

/-- Whether a character is white space. -/
def isBlank (c : Char) : Bool := c == ' ' || c == '\t' || c == '\n' || c == '\r'

/-- Whether a character may begin a name. -/
def isNameStart (c : Char) : Bool := c == '_' || Unicode.inRanges letterRanges c.toNat

/-- Whether a character may stand in a name. -/
def isNameChar (c : Char) : Bool :=
  isNameStart c || c == '-' || c == '.' || Unicode.inRanges otherNameRanges c.toNat

/-- The text after the white space in front. -/
def skipBlanks (cs : List Char) : List Char := cs.dropWhile isBlank

/-- Ends of lines as line feeds, where a carriage return ends a line as well. -/
def joinLines : List Char → List Char
  | [] => []
  | '\r' :: '\n' :: rest => '\n' :: joinLines rest
  | '\r' :: rest => '\n' :: joinLines rest
  | c :: rest => c :: joinLines rest

/-- The text after another one in front. -/
def after? : List Char → List Char → Option (List Char)
  | [], cs => some cs
  | _ :: _, [] => none
  | m :: mark, c :: cs => if m == c then after? mark cs else none

/-- The text up to a mark, and the text after it. -/
def upTo (mark : List Char) : List Char → Option (List Char × List Char)
  | [] => none
  | c :: cs =>
    match after? mark (c :: cs) with
    | some rest => some ([], rest)
    | none => (upTo mark cs).map fun (found, rest) => (c :: found, rest)

/-! ## Names -/

/-- Reads a name without a colon. -/
def name : List Char → Reading (List Char × List Char)
  | c :: rest =>
    if isNameStart c then .ok (c :: rest.takeWhile isNameChar, rest.dropWhile isNameChar)
    else .error .name
  | [] => .error .name

/-- Reads a name, or two names with a colon between them. -/
def qualifiedName (cs : List Char) : Reading (String × List Char) := do
  let (first, rest) ← name cs
  match rest with
  | ':' :: rest =>
    let (second, rest) ← name rest
    return (String.ofList (first ++ ':' :: second), rest)
  | _ => return (String.ofList first, rest)

/-- The parts of a qualified name: the one in front of the colon, which may be missing, and the
local one. -/
def splitName (name : String) : Option String × String :=
  let cs := name.toList
  match cs.dropWhile (· != ':') with
  | ':' :: rest => (some (String.ofList (cs.takeWhile (· != ':'))), String.ofList rest)
  | _ => (none, name)

/-! ## References -/

/-- What a reference stands for. -/
inductive Reference where
  | char (c : Char)
  | entity (name : String)
deriving Repr, DecidableEq

/-- The number that digits write. -/
def digitsNumber (base : Nat) (digits : List Char) : Option Nat :=
  if digits.isEmpty then none
  else digits.foldlM (fun n c => (Number.digitValue? base c).map (n * base + ·)) 0

/-- The character of a number, if a document may hold it. -/
def charOf (n : Nat) : Reading Char :=
  if n.isValidChar && isLegal (Char.ofNat n) then .ok (Char.ofNat n) else .error .reference

/-- Reads a reference after its ampersand. -/
def reference (cs : List Char) : Reading (Reference × List Char) := do
  match cs with
  | '#' :: cs =>
    let (base, cs) :=
      match cs with
      | 'x' :: cs => (16, cs)
      | cs => (10, cs)
    match upTo [';'] cs with
    | none => throw .reference
    | some (digits, rest) =>
      match digitsNumber base digits with
      | none => throw .reference
      | some n => return (.char (← charOf n), rest)
  | cs =>
    let (found, rest) ← name cs
    match rest with
    | ';' :: rest => return (.entity (String.ofList found), rest)
    | _ => throw .reference

/-- The character of an entity that needs no declaration. -/
def predefined? : String → Option Char
  | "amp" => some '&'
  | "lt" => some '<'
  | "gt" => some '>'
  | "quot" => some '\x22'
  | "apos" => some '\''
  | _ => none

end Xml
end FixBindings
