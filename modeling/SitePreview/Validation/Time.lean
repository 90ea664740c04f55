import SitePreview.Calendar
import SitePreview.Json.Parser
import SitePreview.Text.Utf8
import SitePreview.Validation.Issue

/-! Checks of points in time. They arrive as ISO 8601 text, as a date alone, or as seconds or
milliseconds from 1970-01-01, numbers beyond twenty thousand million being milliseconds. -/

namespace SitePreview.Checked

inductive DateFault
  | tooShort
  | yearDigit
  | separator
  | monthDigit
  | dayDigit
  | month
  | day
  | more
  | tooEarly
  | tooLate
deriving DecidableEq

def DateFault.message : DateFault → Text
  | tooShort => "input is too short"
  | yearDigit => "invalid character in year"
  | separator => "invalid date separator, expected `-`"
  | monthDigit => "invalid character in month"
  | dayDigit => "invalid character in day"
  | month => "month value is outside expected range of 1-12"
  | day => "day value is outside expected range"
  | more => "unexpected extra characters at the end of the input"
  | tooEarly => "dates before 0000 are not supported as unix timestamps"
  | tooLate => "dates after 9999 are not supported as unix timestamps"

/-- The number that a count of digits stands for, and what follows them. -/
def digits? (count : Nat) (s : Text) : Option (Nat × Text) :=
  let ds := s.take count
  if ds.length = count && ds.all CodePoint.isAsciiDigit then
    some (Json.digitsValue ds, s.drop count)
  else none

/-- What an option holds, or the fault. -/
def orFault {α : Type} (fault : DateFault) : Option α → Except DateFault α
  | some a => .ok a
  | none => .error fault

/-- The days from 1970-01-01 to the date at the start of a text, and what follows the date. -/
def leadingDate (s : Text) : Except DateFault (Int × Text) := do
  if s.utf8Size < 10 then throw .tooShort
  let (year, s) ← orFault .yearDigit (digits? 4 s)
  let (month, s) ← orFault .monthDigit (digits? 2 (← orFault .separator (Text.after? "-" s)))
  let (day, s) ← orFault .dayDigit (digits? 2 (← orFault .separator (Text.after? "-" s)))
  if month < 1 ∨ 12 < month then throw .month
  if day < 1 ∨ Calendar.daysOfMonth year month < day then throw .day
  return (Calendar.daysOfDate year month day, s)

/-- The seconds of a time of day, its microseconds, and what follows them. -/
def timeOfDay? (s : Text) : Option (Nat × Nat × Text) := do
  let (hour, s) ← digits? 2 s
  let (minute, s) ← digits? 2 (← Text.after? ":" s)
  if 23 < hour ∨ 59 < minute then none
  match Text.after? ":" s with
  | none => some (hour * 3600 + minute * 60, 0, s)
  | some s =>
    let (second, s) ← digits? 2 s
    if 59 < second then none
    let total := hour * 3600 + minute * 60 + second
    match (Text.after? "." s).orElse fun _ => Text.after? "," s with
    | none => some (total, 0, s)
    | some s =>
      let ds := s.takeWhile CodePoint.isAsciiDigit
      if ds = [] then none
      else
        some (total, Json.digitsValue (Text.padRight 6 '0' (ds.take 6)),
          s.dropWhile CodePoint.isAsciiDigit)

/-- The offset that the whole text stands for. -/
def zoneOffset? (s : Text) : Option (Option Int) :=
  match s with
  | [] => some none
  | c :: s =>
    if c = 'Z' ∨ c = 'z' then if s = [] then some (some 0) else none
    else
      let sign : Option Int :=
        if c = '+' then some 1 else if c = '-' ∨ c.val = 0x2212 then some (-1) else none
      do
        let sign ← sign
        let (hour, s) ← digits? 2 s
        let (minute, s) ← digits? 2 (Text.dropPrefix ":" s)
        if 59 < minute ∨ 23 < hour ∨ s ≠ [] then none
        some (some (sign * (hour * 3600 + minute * 60 : Nat)))

/-- The point in time of a text with date and time of day. -/
def dateTime? (s : Text) : Option Timestamp := do
  let (days, s) ← (leadingDate s).toOption
  match s with
  | [] => none
  | c :: s =>
    if ("Tt _" : Text).contains c then
      let (ofDay, micros, s) ← timeOfDay? s
      some { seconds := days * 86400 + ofDay, micros := micros, offset := ← zoneOffset? s }
    else none

/-- Numbers beyond this one count milliseconds. -/
def secondsBound : Nat := 20000000000

/-- The first and the last second that a number may stand for, of the years 0 and 9999. -/
def unixRange : Int × Int := (-62167219200, 253402300799)

/-- The point in time of seconds from 1970-01-01 and microseconds behind them. -/
def ofSeconds (seconds : Int) (micros : Nat) : Except DateFault Timestamp := do
  let seconds := seconds + micros / 1000000
  if seconds < unixRange.1 then throw .tooEarly
  if unixRange.2 < seconds then throw .tooLate
  return { seconds := seconds, micros := micros % 1000000 }

/-- The point in time a number of seconds from 1970-01-01, or of milliseconds if it is a large
number. -/
def ofUnix (n : Int) (micros : Nat) : Except DateFault Timestamp :=
  if n.natAbs ≤ secondsBound then ofSeconds n micros
  else ofSeconds (n.fdiv 1000) ((n.fmod 1000).toNat * 1000 + micros)

/-- The whole number below a double and the parts of one above it, which go to the nearest integer,
a half away from zero. -/
def wholeAndParts? (parts : Float) (x : Float) : Option (Int × Nat) := do
  let whole ← (Decimal.Value.ofFloat x.floor).nearest?
  let above ← (Decimal.Value.ofFloat ((x - x.floor) * parts).round).nearest?
  return (whole, above.toNat)

/-- The point in time of a double, what is behind its point being millionths of a second. -/
def ofUnixFloat (x : Float) : Except DateFault Timestamp :=
  match wholeAndParts? 1000000 x with
  | some (n, micros) => ofUnix n micros
  | none => .error .tooLate

/-- The point in time of a double that was written as a text, what is behind its point being a
fraction of what it counts. -/
def ofUnixDecimal (x : Float) : Except DateFault Timestamp :=
  match wholeAndParts? (if secondsBound.toFloat < x.abs then 1000 else 1000000) x with
  | some (n, micros) => ofUnix n micros
  | none => .error .tooLate

/-- The double in a text of digits with a point among or beside them, perhaps with an exponent. -/
def pointedNumber? (whole fraction : Text) : Option Float := do
  let digits := fraction.takeWhile CodePoint.isAsciiDigit
  let rest := fraction.dropWhile CodePoint.isAsciiDigit
  if whole ++ digits = [] then none
  let (power, rest) ← if rest = [] then some (0, []) else Json.exponent? rest
  if rest ≠ [] then none
  return Json.scientific (Json.digitsValue (whole ++ digits)) (power - digits.length)
    (whole.length + digits.length)

/-- The point in time that the number in a text stands for. An integer of 64 bits that is out of
range is refused as such. -/
def unixText? (s : Text) : Option (Except DateFault Timestamp) :=
  let negative := s.head? = some '-'
  let s := if s.head? = some '-' ∨ s.head? = some '+' then s.tail else s
  let whole := s.takeWhile CodePoint.isAsciiDigit
  let n : Int := Json.digitsValue whole
  if 2 ^ 63 ≤ n then none
  else
    match s.dropWhile CodePoint.isAsciiDigit with
    | [] => if whole = [] then none else some (ofUnix (if negative then -n else n) 0)
    | c :: fraction =>
      if c = '.' then
        (pointedNumber? whole fraction).bind fun x =>
          match ofUnixDecimal (if negative then -x else x) with
          | .ok t => some (.ok t)
          | .error _ => none
      else none

/-- The midnight that starts the date a text consists of. -/
def dateAlone (s : Text) : Except DateFault Timestamp := do
  let (days, rest) ← leadingDate s
  if rest ≠ [] then throw .more
  return { seconds := days * 86400, offset := none }

/-- The point in time, unless its clock shows the year 0. -/
def fromYearOne (t : Timestamp) : Checked Timestamp :=
  if t.year = 0 then fail (.datetimeFromText (Timestamp.outOfRangeMessage 0)) else ok t

def timestamp : Json → Checked Timestamp
  | .string s =>
    match dateTime? s with
    | some t => fromYearOne t
    | none =>
      match (unixText? s).getD (dateAlone s) with
      | .ok t => fromYearOne t
      | .error fault => fail (.datetimeFromDate fault.message)
  | .int n =>
    match ofUnix n 0 with
    | .ok t => fromYearOne t
    | .error fault => fail (.datetimeFromText fault.message)
  | .float x =>
    match ofUnixFloat x with
    | .ok t => fromYearOne t
    | .error fault => fail (.datetimeFromText fault.message)
  | _ => fail .notDatetime

end SitePreview.Checked
