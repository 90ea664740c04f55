import SitePreview.Json.Literal
import SitePreview.Json.Parser
import SitePreview.Text.Blank
import SitePreview.Text.Number
import SitePreview.Text.Utf8
import SitePreview.Validation.Issue

/-! Checks of single values: texts, integers, booleans, lists and names out of a fixed choice.
Numbers and booleans may arrive as text. -/

namespace SitePreview.Checked

open Text

def text : Json → Checked Text
  | .string t => ok t
  | _ => fail .notText

/-- A text that is not empty and can be written in UTF-8. -/
def filledText : Json → Checked Text
  | .string t => if !t.isUtf8 then fail .notUnicode else if t = [] then fail .emptyText else ok t
  | _ => fail .notText

def text? : Json → Checked (Option Text)
  | .null => ok none
  | v => (text v).map some

/-- The checks of the items by their index. -/
def items {α : Type} (check : Json → Checked α) (vs : List Json) : Checked (List α) :=
  all (vs.zipIdx.map fun (v, i) => (check v).inside (.index i))

/-- An object of a kind, by its members. -/
def record {α : Type} (kind : Text) (check : List (Text × Json) → Checked α) : Json → Checked α
  | .object members => check members
  | _ => fail (.notRecord kind)

/-- A list of what passes a check. -/
def list {α : Type} (check : Json → Checked α) : Json → Checked (List α)
  | .array vs => items check vs
  | _ => fail .notList

/-- A fixed sequence of texts. -/
def textTuple : Json → Checked (List Text)
  | .array vs => items text vs
  | _ => fail .notTuple

def textList : Json → Checked (List Text) := list text

/-- The integer in a text that holds nothing but digits, the first of several not zero, with a minus
sign in front of a negative one. Too many digits are told apart whatever follows them. -/
def plainInteger (s : Text) : Checked Int :=
  let digits : Text := dropPrefix "-" s
  let run := digits.takeWhile CodePoint.isAsciiDigit
  if run = [] ∨ (run.head? = some '0' ∧ 1 < run.length) then fail .integerFromText
  else if maxDigits < run.length then fail .integerTooLong
  else if run.length < digits.length then fail .integerFromText
  else
    let n : Int := Json.digitsValue run
    ok (if s.head? = some '-' then -n else n)

/-- The text from the first digit that counts, or a minus sign, or the zero in front of a point;
`zero` is the zero that came last. Single underscores may stand between zeros. -/
def dropZeros? (zero : CodePoint) : Text → Option Text
  | [] => some [zero]
  | c :: s =>
    if c = '0' then dropZeros? c s
    else if c.isAsciiDigit || c = '-' then some (c :: s)
    else if c = '.' then some (zero :: c :: s)
    else if c = '_' then
      match s with
      | [] => none
      | d :: s =>
        if d = '0' then dropZeros? d s
        else if d.isAsciiDigit || d = '-' then some (d :: s)
        else none
    else none

/-- The text without a point and zeros behind it, of which there has to be one. -/
def dropZeroFraction (s : Text) : Text :=
  let isWholePart (c : CodePoint) : Bool := c ≠ '.'
  let fraction := (s.dropWhile isWholePart).tail
  if fraction ≠ [] && fraction.all fun c => c = '0' then s.takeWhile isWholePart else s

/-- The text without underscores, if these stand between other code points and one at a time. -/
def dropUnderscores (s : Text) : Text :=
  let groups := s.splitOn '_'
  if groups.all fun g => g ≠ [] then groups.flatten else s

/-- The text without what may stand around an integer: blanks, a plus sign, zeros in front of it, a
zero fraction behind it, and underscores between its digits. -/
def bareInteger? (t : Text) : Option Text :=
  let s := t.trim
  let unsigned : Text := dropPrefix "+" s
  match unsigned with
  | [] => none
  | c :: rest =>
    let digits : Option Text :=
      if c = '0' then dropZeros? c rest
      else if c.isAsciiDigit || (c = '-' && s = unsigned) then some unsigned
      else none
    digits.map fun ds => dropUnderscores (dropZeroFraction ds)

def integerOfText (t : Text) : Checked Int :=
  if !t.isUtf8 then fail .notUnicode
  else
    match plainInteger t with
    | ok i => ok i
    | bad is =>
      if is.any fun i => i.cause = .integerTooLong then bad is
      else ((bareInteger? t).map plainInteger).getD (bad is)

/-- The integer that a double is, or what keeps it from being one. Integers of 64 bits and a sign
are taken, without the two outermost powers of two. -/
def integerOfFloat (x : Float) : Checked Int :=
  match Decimal.Value.ofFloat x with
  | .finite b =>
    let (num, den) := b.scaled 0
    if num % den ≠ 0 then fail .integerFromFraction
    else if 2 ^ 63 ≤ num / den then fail .integerTooLong
    else ok (if b.negative then -(num / den : Nat) else (num / den : Nat))
  | _ => fail .notFinite

/-- An integer, which may arrive as text, as a number without fraction or as a boolean. -/
def integer : Json → Checked Int
  | .int i => ok i
  | .bool b => ok (if b then 1 else 0)
  | .float x => integerOfFloat x
  | .string t => integerOfText t
  | _ => fail .notInteger

def trueWords : List Text := ["1", "on", "t", "true", "y", "yes"]

def falseWords : List Text := ["0", "off", "f", "false", "n", "no"]

/-- A boolean, which may arrive as one of the words for it in ASCII letters of any case or as a
number. A number that is no integer of 64 bits is none at all. -/
def boolean : Json → Checked Bool
  | .bool b => ok b
  | .string t =>
    if !t.isUtf8 then fail .notUnicode
    else if trueWords.contains t.toLower then ok true
    else if falseWords.contains t.toLower then ok false
    else fail .booleanFromText
  | .int i =>
    if i = 0 then ok false
    else if i = 1 then ok true
    else if -2 ^ 63 ≤ i ∧ i < 2 ^ 63 then fail .booleanFromText
    else fail .notBoolean
  | .float x =>
    match integerOfFloat x with
    | ok i => if i = 0 then ok false else if i = 1 then ok true else fail .booleanFromText
    | bad _ => fail .notBoolean
  | _ => fail .notBoolean

def oneOf {α : Type} (choices : List (Text × α)) (v : Json) : Checked α :=
  let refused : Checked α := fail (.notOneOf (choices.map Prod.fst))
  match v with
  | .string t => if t.isUtf8 then ((choices.lookup t).map ok).getD refused else fail .notUnicode
  | _ => refused

/-- The named member of an object, checked, or the default if it is missing. -/
def member {α : Type} (members : List (Text × Json)) (name : Text) (default : α)
    (check : Json → Checked α) : Checked α :=
  match members.lookup name with
  | some v => (check v).inside (.name name)
  | none => ok default

/-- The named member of an object, checked, which may not be missing. -/
def required {α : Type} (members : List (Text × Json)) (name : Text) (check : Json → Checked α) :
    Checked α :=
  match members.lookup name with
  | some v => (check v).inside (.name name)
  | none => (fail .missing).inside (.name name)

end SitePreview.Checked
