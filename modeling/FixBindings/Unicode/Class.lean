import FixBindings.Unicode.ClassTable

/-!
# Digits, blanks and printable characters

Membership of single characters in the classes of `FixBindings.Unicode.ClassTable`.
-/

set_option autoImplicit false

namespace FixBindings
namespace Unicode

/-- The value of a decimal digit of any script. -/
def decimalValue? (c : Char) : Option Nat :=
  if c.toNat < 0x80 then
    if 0x30 ≤ c.toNat ∧ c.toNat ≤ 0x39 then some (c.toNat - 0x30) else none
  else
    (decimalZeros.find? fun z => decide (z ≤ c.toNat) && decide (c.toNat < z + 10)).map
      (c.toNat - ·)

/-- Whether a character has a digit value, superscripts and circled digits included. -/
def isDigit (c : Char) : Bool :=
  inRanges digitRanges c.toNat

/-- Whether a character is white space beyond ASCII. -/
def isWideBlank (c : Char) : Bool :=
  wideBlanks.contains c.toNat

/-- Whether quoted text shows a character as itself. -/
def isPrintable (c : Char) : Bool :=
  if c.toNat < 0x7F then decide (0x20 ≤ c.toNat) else !inRanges unprintableRanges c.toNat

end Unicode
end FixBindings
