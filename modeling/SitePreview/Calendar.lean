import SitePreview.Decimal.Scientific
import SitePreview.Text.Basic

/-! Points in time: a date and a time of day with microseconds, with or without an offset from
universal time, in the proleptic Gregorian calendar. -/

namespace SitePreview

namespace Calendar

/-- The number of days from 1970-01-01 to a date. Years are counted from March, so that the leap day
ends the year. -/
def daysOfDate (year month day : Nat) : Int :=
  let y : Int := if month ≤ 2 then year - 1 else year
  let era := y.fdiv 400
  let ofEra := (y - era * 400).toNat
  let fromMarch := (month + 9) % 12
  let ofYear := (153 * fromMarch + 2) / 5 + day - 1
  let days := ofEra * 365 + ofEra / 4 - ofEra / 100 + ofYear
  era * 146097 + days - 719468

/-- Year, month and day of the date a number of days from 1970-01-01. -/
def dateOfDays (days : Int) : Int × Nat × Nat :=
  let z := days + 719468
  let era := z.fdiv 146097
  let ofEra := (z - era * 146097).toNat
  let y := (ofEra - ofEra / 1460 + ofEra / 36524 - ofEra / 146096) / 365
  let ofYear := ofEra - (365 * y + y / 4 - y / 100)
  let fromMarch := (5 * ofYear + 2) / 153
  let day := ofYear - (153 * fromMarch + 2) / 5 + 1
  let month := if fromMarch < 10 then fromMarch + 3 else fromMarch - 9
  (y + era * 400 + (if month ≤ 2 then 1 else 0), month, day)

def isLeap (year : Nat) : Bool := year % 4 = 0 && (year % 100 ≠ 0 || year % 400 = 0)

/-- The number of days of a month, which is 0 for what is no month. -/
def daysOfMonth (year month : Nat) : Nat :=
  if month = 2 then if isLeap year then 29 else 28
  else if [4, 6, 9, 11].contains month then 30
  else if 1 ≤ month && month ≤ 12 then 31
  else 0

end Calendar

/-- A point in time as a clock shows it: seconds from 1970-01-01T00:00 by that clock, microseconds,
and how many seconds the clock is ahead of universal time, if that is known. -/
structure Timestamp where
  seconds : Int
  micros : Nat := 0
  offset : Option Int := some 0
deriving DecidableEq

namespace Timestamp

/-- Seconds of universal time from 1970-01-01T00:00; a clock of unknown offset counts as one of
universal time. -/
def utcSeconds (t : Timestamp) : Int := t.seconds - t.offset.getD 0

/-- The clock's reading taken as universal time. -/
def asUtc (t : Timestamp) : Timestamp := { t with offset := some 0 }

/-- Date and time of day, hyphens and colons between their parts, `between` in the middle. -/
def dateTimeText (t : Timestamp) (between : Text) : Text :=
  let days := t.seconds.fdiv 86400
  let (year, month, day) := Calendar.dateOfDays days
  let ofDay := (t.seconds - days * 86400).toNat
  let two (n : Nat) : Text := Text.padLeft 2 '0' (.ofNat n)
  Text.padLeft 4 '0' (.ofInt year) ++ "-" ++ two month ++ "-" ++ two day ++ between ++
    two (ofDay / 3600) ++ ":" ++ two (ofDay / 60 % 60) ++ ":" ++ two (ofDay % 60)

/-- The microseconds behind a point, if there are any. -/
def fractionText (t : Timestamp) : Text :=
  if t.micros = 0 then [] else "." ++ Text.padLeft 6 '0' (.ofNat t.micros)

/-- The offset as sign, hours and minutes; empty if it is not known. -/
def offsetText (t : Timestamp) : Text :=
  match t.offset with
  | none => []
  | some o =>
    let n := o.natAbs
    let two (n : Nat) : Text := Text.padLeft 2 '0' (.ofNat n)
    let sign : Text := if o < 0 then "-" else "+"
    let odd : Text := if n % 60 = 0 then [] else ":" ++ two (n % 60)
    sign ++ two (n / 3600) ++ ":" ++ two (n / 60 % 60) ++ odd

/-- The form of ISO 8601 with the offset in numbers. -/
def iso (t : Timestamp) : Text := t.dateTimeText "T" ++ t.fractionText ++ t.offsetText

/-- The form of ISO 8601 with a `Z` for universal time. -/
def isoZulu (t : Timestamp) : Text :=
  t.dateTimeText "T" ++ t.fractionText ++ (if t.offset = some 0 then ("Z" : Text) else t.offsetText)

/-- The part of a double in front of its point, and the part behind it in millionths. -/
def inMillionths (x : Float) : Float × Float :=
  let whole := if x < 0 then x.ceil else x.floor
  (whole, (x - whole) * 1000000)

/-- The point in universal time that lies a finite number of seconds from 1970-01-01T00:00. Its
microseconds are the nearest integer, the even one of two equally near. -/
def ofFloat? (x : Float) : Option Timestamp := do
  let (whole, millionths) := inMillionths x
  let total := (← (Decimal.Value.ofFloat whole).nearest?) * 1000000 +
    (← (Decimal.Value.ofFloat millionths).nearest?)
  let seconds := total.fdiv 1000000
  return { seconds := seconds, micros := (total - seconds * 1000000).toNat }

def year (t : Timestamp) : Int := (Calendar.dateOfDays (t.seconds.fdiv 86400)).1

def outOfRangeMessage (year : Int) : Text := "year " ++ .ofInt year ++ " is out of range"

end Timestamp

end SitePreview
