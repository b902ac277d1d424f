import FixBindings.Yaml.Fault

/-!
# Tags of scalars

The tag of a plain scalar follows from its text: truth values, integers in several bases and with
parts of sixty, real numbers, the merge mark, null, dates and timestamps, and a text otherwise.
-/

set_option autoImplicit false

namespace FixBindings
namespace Yaml

/-- A tag of the common schema. -/
def commonTag (name : String) : String := "tag:yaml.org,2002:" ++ name

/-- The words for truth values. -/
def truthWords : List (String × Bool) :=
  [("yes", true), ("no", false), ("true", true), ("false", false), ("on", true), ("off", false)]

/-- Whether a word is written in small letters, with one capital in front, or in capitals. -/
def hasWordCase (s : String) : Bool :=
  s.toList.all Char.isLower || s.toList.all Char.isUpper ||
    match s.toList with
    | [] => false
    | c :: rest => c.isUpper && rest.all Char.isLower

/-- Whether a text is a truth value. -/
def isTruth (s : String) : Bool :=
  hasWordCase s && (truthWords.lookup (String.ofList (s.toList.map Char.toLower))).isSome

/-- The rest of a text after its sign, if it has one. -/
def dropSign (cs : List Char) : List Char := (Number.splitSign cs).2

/-- Whether a character is a digit or an underscore. -/
def isSpacedDigit (c : Char) : Bool := c.isDigit || c == '_'

/-- Whether characters are nonempty and all satisfy a condition. -/
def someAll (p : Char → Bool) (cs : List Char) : Bool := !cs.isEmpty && cs.all p

/-- Splits characters at every colon. -/
def colonParts : List Char → List (List Char)
  | [] => [[]]
  | c :: rest =>
    if c == ':' then [] :: colonParts rest
    else
      match colonParts rest with
      | [] => [[c]]
      | part :: parts => (c :: part) :: parts

/-- Whether a part is a number below sixty in one or two digits. -/
def isSixtieth : List Char → Bool
  | [c] => c.isDigit
  | [c, d] => decide ('0' ≤ c ∧ c ≤ '5') && d.isDigit
  | _ => false

/-- Whether a text is an unsigned integer. -/
def isUnsignedInteger (cs : List Char) : Bool :=
  match cs with
  | ['0'] => true
  | '0' :: 'b' :: rest => someAll (fun c => c == '0' || c == '1' || c == '_') rest
  | '0' :: 'x' :: rest => someAll (fun c => (Number.digitValue? 16 c).isSome || c == '_') rest
  | '0' :: rest => someAll (fun c => decide ('0' ≤ c ∧ c ≤ '7') || c == '_') rest
  | c :: _ =>
    c.isDigit &&
      match colonParts cs with
      | whole :: parts => whole.all isSpacedDigit && parts.all isSixtieth
      | [] => false
  | [] => false

/-- Whether a text is an exponent with a sign, or nothing. -/
def isSignedExponent (cs : List Char) : Bool :=
  match cs with
  | [] => true
  | e :: s :: digits =>
    (e == 'e' || e == 'E') && (s == '-' || s == '+') && someAll Char.isDigit digits
  | _ => false

/-- The rest of characters after the digits and underscores in front. -/
def dropSpacedDigits (cs : List Char) : List Char := cs.dropWhile isSpacedDigit

/-- Whether a text begins with a digit. -/
def startsWithDigit (cs : List Char) : Bool := cs.head?.any Char.isDigit

/-- Whether a text is a real number with a whole part. -/
def isPointed (cs : List Char) : Bool :=
  startsWithDigit cs &&
    match dropSpacedDigits cs with
    | '.' :: rest => isSignedExponent (dropSpacedDigits rest)
    | _ => false

/-- Whether a text is a real number with parts of sixty. -/
def isSexagesimalReal (cs : List Char) : Bool :=
  let (front, back) := (cs.takeWhile (· != '.'), cs.dropWhile (· != '.'))
  startsWithDigit cs && !back.isEmpty && (back.drop 1).all isSpacedDigit &&
    match colonParts front with
    | whole :: part :: parts => whole.all isSpacedDigit && (part :: parts).all isSixtieth
    | _ => false

/-- Whether a text is a real number. -/
def isReal (cs : List Char) : Bool :=
  let unsigned := dropSign cs
  let word := String.ofList unsigned
  isPointed unsigned || isSexagesimalReal unsigned
    || word == ".inf" || word == ".Inf" || word == ".INF"
    || (match cs with
      | '.' :: rest => startsWithDigit rest && isSignedExponent (dropSpacedDigits rest)
      | _ => false)
    || cs == ".nan".toList || cs == ".NaN".toList || cs == ".NAN".toList

/-- The distance from universal time as it is written. -/
inductive Zone where
  | universal
  | apart (negative : Bool) (hours minutes : Nat)
deriving Repr, DecidableEq

/-- A time of day as it is written. -/
structure ClockText where
  hour : Nat
  minute : Nat
  second : Nat
  fraction : List Char
  zone : Option Zone
deriving Repr, DecidableEq

/-- A date or timestamp as it is written. -/
structure TimestampText where
  year : Nat
  month : Nat
  day : Nat
  /-- Whether month and day have two digits each. -/
  padded : Bool
  clock : Option ClockText
deriving Repr, DecidableEq

/-- Reads digits, at least `least` and at most `most` of them: their number, how many they are, and
the rest. -/
def digits? (least most : Nat) (cs : List Char) : Option (Nat × Nat × List Char) :=
  let ds := (cs.take most).takeWhile Char.isDigit
  if ds.length < least then none else some (Number.digitsValue ds, ds.length, cs.drop ds.length)

/-- Reads a character. -/
def expect? (c : Char) (cs : List Char) : Option (List Char) :=
  match cs with
  | d :: rest => if d == c then some rest else none
  | [] => none

/-- The rest of characters after spaces and tabs. -/
def dropBlanks (cs : List Char) : List Char := cs.dropWhile fun c => c == ' ' || c == '\t'

/-- Reads the distance from universal time, which ends the text. -/
def zone? (cs : List Char) : Option Zone :=
  match cs with
  | ['Z'] => some .universal
  | s :: rest =>
    if s == '-' || s == '+' then do
      let (hours, _, rest) ← digits? 1 2 rest
      match rest with
      | [] => some (.apart (s == '-') hours 0)
      | _ => do
        let (minutes, _, rest) ← digits? 2 2 (← expect? ':' rest)
        if rest.isEmpty then some (.apart (s == '-') hours minutes) else none
    else none
  | [] => none

/-- Reads a time of day, which ends the text. -/
def clock? (cs : List Char) : Option ClockText := do
  let (hour, _, rest) ← digits? 1 2 cs
  let (minute, _, rest) ← digits? 2 2 (← expect? ':' rest)
  let (second, _, rest) ← digits? 2 2 (← expect? ':' rest)
  let (fraction, rest) :=
    match rest with
    | '.' :: after => Number.splitDigits after
    | _ => ([], rest)
  if rest.isEmpty then return { hour, minute, second, fraction, zone := none }
  else return { hour, minute, second, fraction, zone := some (← zone? (dropBlanks rest)) }

/-- Reads a date or timestamp. -/
def timestampText? (cs : List Char) : Option TimestampText := do
  let (year, _, rest) ← digits? 4 4 cs
  let (month, monthDigits, rest) ← digits? 1 2 (← expect? '-' rest)
  let (day, dayDigits, rest) ← digits? 1 2 (← expect? '-' rest)
  let padded := monthDigits == 2 && dayDigits == 2
  match rest with
  | [] => return { year, month, day, padded, clock := none }
  | c :: after =>
    if c == 'T' || c == 't' then
      return { year, month, day, padded, clock := some (← clock? after) }
    else if c == ' ' || c == '\t' then
      return { year, month, day, padded, clock := some (← clock? (dropBlanks after)) }
    else none

/-- Whether a text is a date or timestamp.  A date alone has two digits for month and day. -/
def isTimestamp (cs : List Char) : Bool :=
  (timestampText? cs).any fun t => t.padded || t.clock.isSome

/-- A text without a line feed at its end. -/
def dropFinalBreak (cs : List Char) : List Char :=
  match cs.reverse with
  | '\n' :: rest => rest.reverse
  | _ => cs

/-- The tag of a plain scalar. -/
def plainTag (s : String) : String :=
  let cs := dropFinalBreak s.toList
  let t := String.ofList cs
  commonTag <|
    if isTruth t then "bool"
    else if isReal cs then "float"
    else if isUnsignedInteger (dropSign cs) then "int"
    else if t == "<<" then "merge"
    else if t == "" || t == "~" || t == "null" || t == "Null" || t == "NULL" then "null"
    else if isTimestamp cs then "timestamp"
    else if t == "=" then "value"
    else if t == "!" || t == "&" || t == "*" then "yaml"
    else "str"

end Yaml
end FixBindings
