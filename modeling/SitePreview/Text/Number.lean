import SitePreview.Text.Blank
import SitePreview.Text.Quoted

/-! Numbers in texts. Digits of any script count, white space may stand around a number and single
underscores between its digits. An integer has no more than 4300 digits. -/

namespace SitePreview

namespace CodePoint

/-- The zeros of all scripts, each of which the other nine digits follow, after Unicode 14. -/
def zeros : List Nat :=
  [0x30, 0x660, 0x6F0, 0x7C0, 0x966, 0x9E6, 0xA66, 0xAE6, 0xB66, 0xBE6, 0xC66, 0xCE6, 0xD66, 0xDE6,
   0xE50, 0xED0, 0xF20, 0x1040, 0x1090, 0x17E0, 0x1810, 0x1946, 0x19D0, 0x1A80, 0x1A90, 0x1B50,
   0x1BB0, 0x1C40, 0x1C50, 0xA620, 0xA8D0, 0xA900, 0xA9D0, 0xA9F0, 0xAA50, 0xABF0, 0xFF10, 0x104A0,
   0x10D30, 0x11066, 0x110F0, 0x11136, 0x111D0, 0x112F0, 0x11450, 0x114D0, 0x11650, 0x116C0,
   0x11730, 0x118E0, 0x11950, 0x11C50, 0x11D50, 0x11DA0, 0x16A60, 0x16AC0, 0x16B50, 0x1D7CE,
   0x1D7D8, 0x1D7E2, 0x1D7EC, 0x1D7F6, 0x1E140, 0x1E2F0, 0x1E950, 0x1FBF0]

/-- The value of a digit of any script. -/
def decimalDigit? (c : CodePoint) : Option Nat :=
  (zeros.find? fun z => z ≤ c.val && c.val ≤ z + 9).map fun z => c.val - z

end CodePoint

/-- Why a text is not the number that it should be. -/
inductive NumberFault
  | notInteger (t : Text)
  | tooManyDigits (count : Nat)
  | notNumber (t : Text)
deriving DecidableEq

namespace NumberFault

/-- How much of a text is shown in quotes that is no integer. -/
def shownLength : Nat := 200

def message : NumberFault → Text
  | notInteger t => "invalid literal for int() with base 10: " ++ t.quoted.take shownLength
  | tooManyDigits count =>
    "Exceeds the limit (4300 digits) for integer string conversion: value has " ++
      .ofNat count ++ " digits; use sys.set_int_max_str_digits() to increase the limit"
  | notNumber t => "could not convert string to float: " ++ t.quoted

end NumberFault

namespace Text

/-- The greatest number of digits that an integer may have. -/
def maxDigits : Nat := 4300

theorem digit_lt_bound {d : Nat} (h : d < 10) : 48 + d < 0x110000 := by omega

/-- The text with digits of all scripts as those of ASCII. -/
def withAsciiDigits (t : Text) : Text :=
  t.map fun c =>
    match c.decimalDigit? with
    | some d => if h : d < 10 then ⟨48 + d, digit_lt_bound h⟩ else c
    | none => c

/-- The digits at the start of a text, without the single underscores between them, and what
follows. -/
def digitRun (s : Text) : Text × Text :=
  match s with
  | [] => ([], [])
  | c :: s =>
    if c.isAsciiDigit then
      match s with
      | [] => ([c], [])
      | d :: rest =>
        if d = '_' && (rest.head?.any CodePoint.isAsciiDigit) then
          let (ds, after) := digitRun rest
          (c :: ds, after)
        else
          let (ds, after) := digitRun (d :: rest)
          (c :: ds, after)
    else ([], c :: s)

def unsigned (s : Text) : Text :=
  match s with
  | [] => []
  | c :: rest => if c = '+' ∨ c = '-' then rest else c :: rest

/-- The integer that a text writes. -/
def integer (t : Text) : Except NumberFault Int :=
  let s := withAsciiDigits t.trim
  let (digits, rest) := digitRun (unsigned s)
  if maxDigits < digits.length then .error (.tooManyDigits digits.length)
  else if digits = [] ∨ rest ≠ [] then .error (.notInteger t)
  else
    let n : Int := digits.foldl (fun n c => n * 10 + (c.val - 48)) 0
    .ok (if s.head? = some '-' then -n else n)

/-- The words that stand for numbers beyond all others, or for none. -/
def numberWords : List Text := ["inf", "infinity", "nan"]

/-- What follows a point and the digits behind it, and whether there are digits. -/
def skipFraction (s : Text) : Bool × Text :=
  match after? "." s with
  | none => (false, s)
  | some s =>
    let (digits, rest) := digitRun s
    (digits ≠ [], rest)

/-- The text is an exponent, or empty. -/
def isExponent (s : Text) : Bool :=
  match s with
  | [] => true
  | e :: s =>
    let (digits, rest) := digitRun (unsigned s)
    (e = 'e' || e = 'E') && digits ≠ [] && rest = []

/-- The text writes a number, with or without a fraction and an exponent. -/
def isNumber (t : Text) : Bool :=
  let s := unsigned (withAsciiDigits t.trim)
  let (digits, rest) := digitRun s
  let (hasFraction, rest) := skipFraction rest
  numberWords.contains s.toLower || ((digits ≠ [] || hasFraction) && isExponent rest)

/-- The text writes a number, or the fault about it. -/
def checkNumber (t : Text) : Except NumberFault Unit :=
  if isNumber t then .ok () else .error (.notNumber t)

end Text

end SitePreview
