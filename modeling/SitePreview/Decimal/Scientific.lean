import SitePreview.Decimal.Binary
import SitePreview.Decimal.Shortest
import SitePreview.Text.Basic

/-! Decimal numbers: with a fixed count of places, rounded from the exact value, or rounded to a
count of significant digits and written with an exponent or in the shorter of both forms. -/

namespace SitePreview.Decimal

/-- A natural number of units of `10 ^ -places`. -/
def fixedNat (places n : Nat) : Text :=
  if places = 0 then .ofNat n
  else .ofNat (n / 10 ^ places) ++ "." ++ Text.padLeft places '0' (.ofNat (n % 10 ^ places))

/-- A double with the given count of decimal places; a half goes to the even last digit. -/
def fixed (places : Nat) (x : Float) : Text :=
  match Value.ofFloat x with
  | .notANumber => "nan"
  | .infinite negative => if negative then "-inf" else "inf"
  | .finite b =>
    let (num, den) := b.scaled places
    (if b.negative then ("-" : Text) else []) ++ fixedNat places (roundDiv num den)

/-- The fraction times a power of ten, rounded to the nearest integer. -/
def scaledRound (num den : Nat) (power : Int) : Nat :=
  if 0 ≤ power then roundDiv (num * 10 ^ power.toNat) den
  else roundDiv num (den * 10 ^ power.natAbs)

/-- The first `count` significant digits as one number, and the power of ten of the first digit.
Zero has the power 0. -/
def significant (num den count : Nat) : Nat × Int :=
  if num = 0 then (0, 0)
  else
    let power := decimalPoint num den - 1
    let n := scaledRound num den ((count : Int) - 1 - power)
    if n = 10 ^ count then (10 ^ (count - 1), power + 1) else (n, power)

/-- An exponent with its sign and at least two digits. -/
def exponentText (power : Int) : Text :=
  let sign : Text := if power < 0 then "-" else "+"
  "e" ++ sign ++ Text.padLeft 2 '0' (.ofNat power.natAbs)

/-- Digits with a point behind the first one, which stands alone only if `point` says so. -/
def pointed (digits : Text) (point : Bool) : Text :=
  digits.take 1 ++ (if digits.length ≤ 1 && !point then ([] : Text) else "." ++ digits.drop 1)

/-- A fraction with an exponent and the given count of places behind the point. -/
def scientificText (places : Nat) (point : Bool) (num den : Nat) : Text :=
  let (n, power) := significant num den (places + 1)
  pointed (Text.padLeft (places + 1) '0' (.ofNat n)) point ++ exponentText power

/-- A fraction with the given count of places. -/
def fixedText (places : Nat) (point : Bool) (num den : Nat) : Text :=
  fixedNat places (roundDiv (num * 10 ^ places) den) ++
    (if places = 0 && point then ("." : Text) else [])

/-- The text without zeros behind the point, and without a point that ends it. -/
def dropZeros (s : Text) : Text :=
  if s.contains '.' then
    let s := Text.dropRightWhile (fun c => c = '0') s
    if s.endsWith "." then s.dropLast else s
  else s

/-- A fraction with at most the given count of significant digits, positional if its power of ten is
at least -4 and less than this count. -/
def generalText (count : Nat) (keepZeros : Bool) (num den : Nat) : Text :=
  let count := max 1 count
  let (n, power) := significant num den count
  if -4 ≤ power && power < count then
    let s := fixedText (count - 1 - power).toNat keepZeros num den
    if keepZeros then s else dropZeros s
  else
    let digits := Text.padLeft count '0' (.ofNat n)
    let s := pointed digits keepZeros
    (if keepZeros then s else dropZeros s) ++ exponentText power

end SitePreview.Decimal
