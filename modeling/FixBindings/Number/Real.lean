import FixBindings.Number.Integer

/-!
# The decimal text of real numbers

A binary64 number is taken apart into `m · 2 ^ e` with a natural number `m`, and everything else
is exact arithmetic on naturals: the shortest decimal that reads back as the number, the nearest
number to a decimal, and the whole part.  Texts are positional from `0.0001` up to below
`10 ^ 16` and have an exponent of at least two digits elsewhere.
-/

set_option autoImplicit false

namespace FixBindings
namespace Number

/-- A binary64 number taken apart. -/
inductive RealParts where
  | notANumber
  | infinite (negative : Bool)
  /-- The number `± significand · 2 ^ exponent`. -/
  | finite (negative : Bool) (significand : Nat) (exponent : Int)
deriving Repr, DecidableEq

/-- The exponent of the unit in the last place of subnormal numbers. -/
def leastExponent : Int := -1074

/-- Takes a number apart. -/
def realParts (x : Float) : RealParts :=
  let bits := x.toBits.toNat
  let negative := decide (Nat.pow 2 63 ≤ bits)
  let exponent := bits / Nat.pow 2 52 % Nat.pow 2 11
  let fraction := bits % Nat.pow 2 52
  if exponent = 2047 then
    if fraction = 0 then .infinite negative else .notANumber
  else if exponent = 0 then .finite negative fraction leastExponent
  else .finite negative (Nat.pow 2 52 + fraction) (leastExponent + (exponent - 1 : Nat))

/-- Whether a number is infinite. -/
def isInfinite (x : Float) : Bool :=
  match realParts x with
  | .infinite _ => true
  | _ => false

/-- The number whose bit pattern is `bits`, with the sign given apart. -/
def realOfBits (negative : Bool) (bits : Nat) : Float :=
  Float.ofBits (UInt64.ofNat ((if negative then Nat.pow 2 63 else 0) + bits))

/-- The bit pattern of infinity. -/
def infiniteBits : Nat := 2047 * Nat.pow 2 52

/-- The quotient of naturals rounded to the nearest natural, ties to even. -/
def roundDiv (num den : Nat) : Nat :=
  let q := num / den
  let r := num % den
  if 2 * r < den then q
  else if den < 2 * r then q + 1
  else if q % 2 = 0 then q else q + 1

/-- `m · 2 ^ e` as a fraction. -/
def binaryFraction (m : Nat) (e : Int) : Nat × Nat :=
  if 0 ≤ e then (m * Nat.pow 2 e.toNat, 1) else (m, Nat.pow 2 (-e).toNat)

/-- The bit pattern of the number nearest to a positive fraction, ties to the even pattern. -/
def nearestBits (num den : Nat) : Nat :=
  if num = 0 then 0
  else
    let guess : Int := (Nat.log2 num : Int) - Nat.log2 den - 52
    let scaled (e : Int) : Nat × Nat :=
      if 0 ≤ e then (num, den * Nat.pow 2 e.toNat) else (num * Nat.pow 2 (-e).toNat, den)
    let (n, d) := scaled guess
    let e := max leastExponent (if Nat.pow 2 52 ≤ n / d then guess else guess - 1)
    let (n, d) := scaled e
    let m := roundDiv n d
    let bits :=
      if m < Nat.pow 2 52 then m
      else (e - leastExponent + 1).toNat * Nat.pow 2 52 + (m - Nat.pow 2 52)
    min bits infiniteBits

/-- The number nearest to `± digits · 10 ^ exponent`. -/
def realOfDecimal (negative : Bool) (digits : Nat) (exponent : Int) : Float :=
  let places : Int := (Nat.toDigits 10 digits).length + exponent
  if digits = 0 ∨ places < -330 then realOfBits negative 0
  else if 310 < places then realOfBits negative infiniteBits
  else if 0 ≤ exponent then
    realOfBits negative (nearestBits (digits * Nat.pow 10 exponent.toNat) 1)
  else realOfBits negative (nearestBits digits (Nat.pow 10 (-exponent).toNat))

/-- The number nearest to an integer. -/
def realOfNat (n : Nat) : Float := realOfBits false (nearestBits n 1)

/-- The greatest `k` with `10 ^ k ≤ num / den`. -/
def decimalMagnitude (num den : Nat) : Int :=
  if den ≤ num then ((Nat.toDigits 10 (num / den)).length : Int) - 1
  else
    let places := (Nat.toDigits 10 (den / num)).length
    if den ≤ num * Nat.pow 10 (places - 1) then -((places : Int) - 1) else -(places : Int)

/-- The reals that round to `m · 2 ^ e`, as fractions over one denominator with the value itself
in the middle.  The ends belong to the interval iff `m` is even. -/
structure RoundingInterval where
  low : Nat
  value : Nat
  high : Nat
  den : Nat
  closed : Bool

/-- The interval of a number.  Below a power of two the spacing is halved. -/
def roundingInterval (m : Nat) (e : Int) : RoundingInterval :=
  let narrow := decide (m = Nat.pow 2 52) && decide (leastExponent < e)
  let (unit, den) := binaryFraction 1 (e - 2)
  { low := (4 * m - (if narrow then 1 else 2)) * unit
    value := 4 * m * unit
    high := (4 * m + 2) * unit
    den := den
    closed := m % 2 == 0 }

/-- Whether the decimal `d · 10 ^ k` lies in the interval. -/
def RoundingInterval.holds (i : RoundingInterval) (d : Nat) (k : Int) : Bool :=
  let scaled := if 0 ≤ k then d * Nat.pow 10 k.toNat * i.den else d * i.den
  let unit := if 0 ≤ k then 1 else Nat.pow 10 (-k).toNat
  if i.closed then decide (i.low * unit ≤ scaled) && decide (scaled ≤ i.high * unit)
  else decide (i.low * unit < scaled) && decide (scaled < i.high * unit)

/-- The decimal with `places` digits that reads back, if one of the two neighbours of the value
does; of two that do, the nearer. -/
def RoundingInterval.decimal? (i : RoundingInterval) (places : Nat) : Option (Nat × Int) :=
  let k := decimalMagnitude i.value i.den - places + 1
  let (num, den) :=
    if 0 ≤ k then (i.value, i.den * Nat.pow 10 k.toNat)
    else (i.value * Nat.pow 10 (-k).toNat, i.den)
  let d := num / den
  match i.holds d k, i.holds (d + 1) k with
  | true, true => some (roundDiv num den, k)
  | true, false => some (d, k)
  | false, true => some (d + 1, k)
  | false, false => none

/-- The shortest decimal `d · 10 ^ k` that reads back as `m · 2 ^ e`. -/
def shortestDecimal (m : Nat) (e : Int) : Nat × Int :=
  let i := roundingInterval m e
  ((List.range 17).findSome? fun n => i.decimal? (n + 1)).getD (0, 0)

/-- A run of zeros. -/
def zeros (n : Nat) : List Char := List.replicate n '0'

/-- The digits of a natural number without its trailing zeros. -/
def significantDigits (d : Nat) : List Char :=
  ((Nat.toDigits 10 d).reverse.dropWhile (· == '0')).reverse

/-- An exponent with its sign and at least two digits. -/
def exponentText (e : Int) : List Char :=
  let digits := Nat.toDigits 10 e.natAbs
  (if e < 0 then '-' else '+') :: (zeros (2 - digits.length) ++ digits)

/-- The text of `0.ds · 10 ^ point`. -/
def decimalText (ds : List Char) (point : Int) : List Char :=
  if point ≤ -4 ∨ 16 < point then
    match ds with
    | [] => ['0']
    | [d] => d :: 'e' :: exponentText (point - 1)
    | d :: rest => d :: '.' :: (rest ++ 'e' :: exponentText (point - 1))
  else if point ≤ 0 then
    '0' :: '.' :: (zeros (-point).toNat ++ ds)
  else
    let whole := point.toNat
    if ds.length ≤ whole then ds ++ zeros (whole - ds.length) ++ ['.', '0']
    else ds.take whole ++ '.' :: ds.drop whole

/-- The shortest text that reads back as the number. -/
def realText (x : Float) : String :=
  match realParts x with
  | .notANumber => "nan"
  | .infinite negative => if negative then "-inf" else "inf"
  | .finite negative m e =>
    let digits :=
      if m = 0 then ['0', '.', '0']
      else
        let (d, k) := shortestDecimal m e
        decimalText (significantDigits d) ((Nat.toDigits 10 d).length + k)
    String.ofList (if negative then '-' :: digits else digits)

/-- The integer nearest to a number towards zero, if the number is finite. -/
def wholePart? (x : Float) : Option Int :=
  match realParts x with
  | .finite negative m e =>
    let (num, den) := binaryFraction m e
    let n : Int := ((num / den : Nat) : Int)
    some (if negative then -n else n)
  | _ => none

/-- How a number compares with an integer, exactly. -/
def compareReal? (x : Float) (n : Int) : Option Ordering :=
  match realParts x with
  | .notANumber => none
  | .infinite negative => some (if negative then .lt else .gt)
  | .finite negative m e =>
    let (num, den) := binaryFraction m e
    some (compare (if negative then -(num : Int) else num) (n * den))

/-- Whether a number equals an integer exactly. -/
def realEqualsInteger (x : Float) (n : Int) : Bool := compareReal? x n == some .eq

/-- Splits a text at the end of its leading digits. -/
def splitDigits (cs : List Char) : List Char × List Char :=
  (cs.takeWhile Char.isDigit, cs.dropWhile Char.isDigit)

/-- The value of ASCII digits. -/
def digitsValue (cs : List Char) : Nat := ofDigits 10 (cs.map fun c => c.toNat - 0x30)

/-- Reads the exponent part of a literal, which ends the text. -/
def readExponent? : List Char → Option Int
  | [] => some 0
  | c :: rest =>
    if c == 'e' || c == 'E' then
      let (negative, digits) := splitSign rest
      if digits.isEmpty || !digits.all Char.isDigit then none
      else some (if negative then -(digitsValue digits : Int) else digitsValue digits)
    else none

/-- Reads an unsigned decimal literal: digits with at most one point among them, and possibly an
exponent. -/
def readDecimal? (negative : Bool) (cs : List Char) : Option Float :=
  let (whole, rest) := splitDigits cs
  let (fraction, rest) :=
    match rest with
    | '.' :: after => splitDigits after
    | _ => ([], rest)
  if whole.isEmpty && fraction.isEmpty then none
  else
    (readExponent? rest).map fun e =>
      realOfDecimal negative (digitsValue (whole ++ fraction)) (e - fraction.length)

/-- Reads a real literal: white space around it, a sign, and a decimal or one of the words for
infinity and for no number. -/
def readReal? (s : String) : Option Float :=
  let cs := (s.toList.map plainChar).dropWhile isAsciiBlank
  let cs := (cs.reverse.dropWhile isAsciiBlank).reverse
  let (negative, body) := splitSign cs
  let word := String.ofList (body.map Char.toLower)
  if word == "inf" || word == "infinity" then some (realOfBits negative infiniteBits)
  else if word == "nan" then some (realOfBits negative (infiniteBits + Nat.pow 2 51))
  else readDecimal? negative body

end Number
end FixBindings
