/-!
# Dates and timestamps

Days of the Gregorian calendar from year 1 to 9999, and moments of such days with an optional
distance from universal time in minutes.
-/

set_option autoImplicit false

namespace FixBindings

/-- A day of the calendar. -/
structure Date where
  year : Nat
  month : Nat
  day : Nat
deriving Repr, DecidableEq

/-- A moment of a day.  `offset` is the distance from universal time in minutes. -/
structure Timestamp where
  date : Date
  hour : Nat
  minute : Nat
  second : Nat
  microsecond : Nat
  offset : Option Int
deriving Repr, DecidableEq

namespace Calendar

/-- Why numbers make no date or timestamp. -/
inductive Fault where
  | year (n : Nat)
  | month
  | day
  | hour
  | minute
  | second
  /-- The distance from universal time reaches a whole day. -/
  | offset (minutes : Int)
deriving Repr, DecidableEq

/-- Whether a year has a leap day. -/
def isLeap (year : Nat) : Bool :=
  year % 4 == 0 && (year % 100 != 0 || year % 400 == 0)

/-- The number of days of a month. -/
def monthLength (year month : Nat) : Nat :=
  if month = 2 then if isLeap year then 29 else 28
  else if month = 4 ∨ month = 6 ∨ month = 9 ∨ month = 11 then 30
  else 31

/-- The day with the given numbers. -/
def date (year month day : Nat) : Except Fault Date :=
  if year < 1 ∨ 9999 < year then .error (.year year)
  else if month < 1 ∨ 12 < month then .error .month
  else if day < 1 ∨ monthLength year month < day then .error .day
  else .ok ⟨year, month, day⟩

/-- The moment with the given numbers. -/
def timestamp (year month day hour minute second microsecond : Nat) (offset : Option Int) :
    Except Fault Timestamp := do
  if let some minutes := offset then
    if 24 * 60 ≤ minutes.natAbs then throw (.offset minutes)
  let date ← date year month day
  if 23 < hour then throw .hour
  if 59 < minute then throw .minute
  if 59 < second then throw .second
  return ⟨date, hour, minute, second, microsecond, offset⟩

/-- A number in at least `width` digits. -/
def padded (width n : Nat) : String :=
  let digits := Nat.toDigits 10 n
  String.ofList (List.replicate (width - digits.length) '0' ++ digits)

/-- The number of days before a day, counted from the first day of year 1. -/
def dayNumber (d : Date) : Nat :=
  let y := d.year - 1
  let months := (List.range (d.month - 1)).foldl (fun days m => days + monthLength d.year (m + 1)) 0
  365 * y + y / 4 - y / 100 + y / 400 + months + (d.day - 1)

/-- The span of some minutes as days and seconds, the seconds within one day. -/
def spanText (minutes : Int) : String :=
  let days := minutes / 1440
  let seconds := minutes % 1440 * 60
  let parts :=
    (if days = 0 then [] else ["days=" ++ toString days]) ++
    (if seconds = 0 then [] else ["seconds=" ++ toString seconds])
  "datetime.timedelta(" ++ (if parts.isEmpty then "0" else String.intercalate ", " parts) ++ ")"

/-- The text of a fault. -/
def Fault.message : Fault → String
  | .year n => "year " ++ toString n ++ " is out of range"
  | .month => "month must be in 1..12"
  | .day => "day is out of range for month"
  | .hour => "hour must be in 0..23"
  | .minute => "minute must be in 0..59"
  | .second => "second must be in 0..59"
  | .offset minutes =>
    "offset must be a timedelta strictly between -timedelta(hours=24) and timedelta(hours=24), not "
      ++ spanText minutes

end Calendar

/-- A date as year, month and day between hyphens. -/
def Date.text (d : Date) : String :=
  Calendar.padded 4 d.year ++ "-" ++ Calendar.padded 2 d.month ++ "-" ++ Calendar.padded 2 d.day

/-- A date as the expression that builds it. -/
def Date.quoted (d : Date) : String :=
  "datetime.date(" ++ toString d.year ++ ", " ++ toString d.month ++ ", " ++ toString d.day ++ ")"

/-- A timestamp as date, separator, time of day and distance from universal time. -/
def Timestamp.text (separator : Char) (t : Timestamp) : String :=
  let fraction :=
    if t.microsecond = 0 then "" else "." ++ Calendar.padded 6 t.microsecond
  let zone :=
    match t.offset with
    | none => ""
    | some m =>
      (if m < 0 then "-" else "+") ++ Calendar.padded 2 (m.natAbs / 60) ++ ":"
        ++ Calendar.padded 2 (m.natAbs % 60)
  t.date.text ++ separator.toString ++ Calendar.padded 2 t.hour ++ ":"
    ++ Calendar.padded 2 t.minute ++ ":" ++ Calendar.padded 2 t.second ++ fraction ++ zone

/-- A timestamp as the expression that builds it; trailing zeros of the time are left out. -/
def Timestamp.quoted (t : Timestamp) : String :=
  let tail :=
    if t.microsecond ≠ 0 then [t.second, t.microsecond]
    else if t.second ≠ 0 then [t.second] else []
  let numbers := [t.date.year, t.date.month, t.date.day, t.hour, t.minute] ++ tail
  let zone :=
    match t.offset with
    | none => []
    | some 0 => ["tzinfo=datetime.timezone.utc"]
    | some m => ["tzinfo=datetime.timezone(" ++ Calendar.spanText m ++ ")"]
  "datetime.datetime(" ++ String.intercalate ", " (numbers.map toString ++ zone) ++ ")"

/-- The microseconds from the start of year 1 in universal time. -/
def Timestamp.instant (t : Timestamp) : Int :=
  let seconds : Nat :=
    ((Calendar.dayNumber t.date * 24 + t.hour) * 60 + t.minute) * 60 + t.second
  (seconds * 1000000 + t.microsecond : Nat) - t.offset.getD 0 * 60000000

/-- Whether two timestamps name the same moment.  One without a distance from universal time
never equals one with it. -/
def Timestamp.same (a b : Timestamp) : Bool :=
  a.offset.isSome == b.offset.isSome && decide (a.instant = b.instant)

end FixBindings
