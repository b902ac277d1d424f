/-!
# Text in octets

UTF-8 encoding, and decoding that says where and why it stops: at an octet that begins no
character, at one that does not continue the character before it, or at the end of the data.
Overlong forms, surrogates and numbers beyond the last character are refused at the first octet
that leads to them.
-/

set_option autoImplicit false

namespace FixBindings
namespace Utf8

/-- Why octets are no text. -/
inductive Reason where
  | start
  | continuation
  | unexpectedEnd
deriving Repr, DecidableEq

/-- The place at which decoding stops: the position of the first octet of the bad sequence, that
octet, and the number of octets of the sequence. -/
structure Fault where
  reason : Reason
  position : Nat
  octet : UInt8
  count : Nat
deriving Repr, DecidableEq

/-- The text of a reason. -/
def Reason.message : Reason → String
  | .start => "invalid start byte"
  | .continuation => "invalid continuation byte"
  | .unexpectedEnd => "unexpected end of data"

/-- Two hexadecimal digits of an octet. -/
def hexOctet (b : UInt8) : String :=
  String.ofList [Nat.digitChar (b.toNat / 16), Nat.digitChar (b.toNat % 16)]

/-- The text of a fault. -/
def Fault.message (f : Fault) : String :=
  "'utf-8' codec can't decode byte" ++
    (if f.count = 1 then " 0x" ++ hexOctet f.octet ++ " in position " ++ toString f.position
    else "s in position " ++ toString f.position ++ "-" ++ toString (f.position + f.count - 1))
    ++ ": " ++ f.reason.message

/-- The octets of a text. -/
def encode (s : String) : List UInt8 := s.toUTF8.toList

/-- The number of octets that follow a first octet, and the bounds of the octet after it. -/
def sequence? (b : UInt8) : Option (Nat × UInt8 × UInt8) :=
  if b < 0x80 then some (0, 0x80, 0xBF)
  else if b < 0xC2 then none
  else if b < 0xE0 then some (1, 0x80, 0xBF)
  else if b == 0xE0 then some (2, 0xA0, 0xBF)
  else if b == 0xED then some (2, 0x80, 0x9F)
  else if b < 0xF0 then some (2, 0x80, 0xBF)
  else if b == 0xF0 then some (3, 0x90, 0xBF)
  else if b == 0xF4 then some (3, 0x80, 0x8F)
  else if b < 0xF4 then some (3, 0x80, 0xBF)
  else none

/-- The bits of a first octet that belong to the character, where `following` octets come after. -/
def firstBits (following : Nat) (b : UInt8) : Nat :=
  match following with
  | 0 => b.toNat
  | 1 => b.toNat % 32
  | 2 => b.toNat % 16
  | _ => b.toNat % 8

/-- The number of octets in front that continue a character, of which there may be `following`,
the first one within the bounds. -/
def continuing : Nat → UInt8 → UInt8 → List UInt8 → Nat
  | 0, _, _, _ => 0
  | _, _, _, [] => 0
  | following + 1, low, high, b :: rest =>
    if low ≤ b && b ≤ high then continuing following 0x80 0xBF rest + 1 else 0

/-- Decodes octets, where `skip` of them belong to the character before. -/
def decodeFrom : Nat → Nat → List UInt8 → Except Fault (List Char)
  | _, _, [] => .ok []
  | position, skip + 1, _ :: rest => decodeFrom (position + 1) skip rest
  | position, 0, b :: rest =>
    match sequence? b with
    | none => .error ⟨.start, position, b, 1⟩
    | some (following, low, high) =>
      let n := continuing following low high rest
      if n = following then do
        let number := (rest.take n).foldl (fun c b => c * 64 + b.toNat % 64)
          (firstBits following b)
        return Char.ofNat number :: (← decodeFrom (position + 1) following rest)
      else if n = rest.length then .error ⟨.unexpectedEnd, position, b, n + 1⟩
      else .error ⟨.continuation, position, b, n + 1⟩

/-- Decodes octets. -/
def decode (octets : List UInt8) : Except Fault String :=
  (decodeFrom 0 0 octets).map String.ofList

/-- Ends of lines as line feeds, where a carriage return ends a line as well. -/
def joinLineEnds : List Char → List Char
  | [] => []
  | '\r' :: '\n' :: rest => '\n' :: joinLineEnds rest
  | '\r' :: rest => '\n' :: joinLineEnds rest
  | c :: rest => c :: joinLineEnds rest

/-- The text of a text file. -/
def decodeLines (octets : List UInt8) : Except Fault String :=
  (decode octets).map fun s => String.ofList (joinLineEnds s.toList)

end Utf8
end FixBindings
