import FixBindings.Text.Utf8
import FixBindings.Xml.Reader

/-!
# Encodings of XML documents

The characters of a document that is given in octets.  The first octets tell units of sixteen bits
from units of eight.  The encoding of the latter is the declared one, and UTF-8 if none is declared.
A declared encoding has to have units of the size that the document has.
-/

set_option autoImplicit false

namespace FixBindings
namespace Xml

/-- The encodings of documents. -/
inductive Encoding where
  | utf8
  | latin1
  | ascii
  | utf16 (bigEndian : Bool)
deriving Repr, DecidableEq

/-- A text in small letters. -/
def smallLetters (s : String) : String := s.map Char.toLower

namespace Encoding

/-- The encoding that a document of units of eight bits declares. -/
def narrow? (name : String) : Option Encoding :=
  match smallLetters name with
  | "utf-8" => some .utf8
  | "iso-8859-1" | "latin-1" | "latin1" | "latin_1" | "l1" | "iso8859-1" => some .latin1
  | "us-ascii" | "ascii" | "us_ascii" | "utf8" | "utf_8" => some .ascii
  | _ => none

/-- Whether a document of units of sixteen bits may declare an encoding. -/
def mayDeclareWide (bigEndian : Bool) (name : String) : Bool :=
  let name := smallLetters name
  name == "utf-16" || name == (if bigEndian then "utf-16be" else "utf-16le")

end Encoding

/-- The characters of octets that are their own numbers. -/
def latin1Text (octets : List UInt8) : List Char := octets.map fun b => Char.ofNat b.toNat

/-- The units of sixteen bits that octets make. -/
def wideUnits (bigEndian : Bool) : List UInt8 → Reading (List Nat)
  | [] => .ok []
  | a :: b :: rest => do
    let unit := if bigEndian then a.toNat * 256 + b.toNat else b.toNat * 256 + a.toNat
    return unit :: (← wideUnits bigEndian rest)
  | [_] => .error .encoding

/-- The characters that units of sixteen bits make. -/
def wideText : List Nat → Reading (List Char)
  | [] => .ok []
  | u :: v :: rest =>
    if 0xD800 ≤ u ∧ u < 0xDC00 then
      if 0xDC00 ≤ v ∧ v < 0xE000 then do
        let c := Char.ofNat (0x10000 + (u - 0xD800) * 0x400 + (v - 0xDC00))
        return c :: (← wideText rest)
      else .error .encoding
    else if 0xDC00 ≤ u ∧ u < 0xE000 then .error .encoding
    else do return Char.ofNat u :: (← wideText (v :: rest))
  | [u] => if 0xD800 ≤ u ∧ u < 0xE000 then .error .encoding else .ok [Char.ofNat u]

/-- Decodes a document of units of sixteen bits. -/
def decodeWide (bigEndian : Bool) (octets : List UInt8) : Reading String := do
  let cs ← wideText (← wideUnits bigEndian octets)
  let body := if cs.head? == some '\uFEFF' then cs.drop 1 else cs
  let (declaration, _) ← declarationOf body
  if declaration.encoding.all (Encoding.mayDeclareWide bigEndian) then return String.ofList cs
  else throw .encoding

/-- Decodes a document of units of eight bits. -/
def decodeNarrow (octets : List UInt8) : Reading String := do
  let (declaration, _) ← declarationOf (latin1Text octets)
  match declaration.encoding.elim (some .utf8) Encoding.narrow? with
  | some .utf8 => (Utf8.decode octets).mapError fun _ => .encoding
  | some .latin1 => return String.ofList (latin1Text octets)
  | some .ascii =>
    if octets.all (· < 0x80) then return String.ofList (latin1Text octets) else throw .encoding
  | _ => throw .encoding

/-- Decodes a document. -/
def decode (octets : List UInt8) : Reading String :=
  match octets with
  | 0xFE :: 0xFF :: rest => decodeWide true rest
  | 0xFF :: 0xFE :: rest => decodeWide false rest
  | 0xEF :: 0xBB :: 0xBF :: rest => decodeNarrow rest
  | 0x00 :: _ => decodeWide true octets
  | _ :: 0x00 :: _ => decodeWide false octets
  | _ => decodeNarrow octets

/-- Reads a document in octets. -/
def readOctets (octets : List UInt8) : Reading Element := do read (← decode octets)

end Xml
end FixBindings
