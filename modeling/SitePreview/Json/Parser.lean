import SitePreview.Json.Basic

/-! Reading JSON texts. The grammar is that of RFC 8259, with `NaN`, `Infinity` and `-Infinity`
among the numbers. A repeated key keeps its first place and takes the last value, and an escaped
surrogate without its partner stays a surrogate. -/

namespace SitePreview.Json

/-- The text without leading JSON white space. -/
def skipSpace (s : Text) : Text :=
  s.dropWhile fun c => c = ' ' || c = '\t' || c = '\n' || c = '\r'

def hexValue? (c : CodePoint) : Option Nat :=
  if c.isAsciiDigit then some (c.val - 48)
  else if 97 ≤ c.val && c.val ≤ 102 then some (c.val - 87)
  else if 65 ≤ c.val && c.val ≤ 70 then some (c.val - 55)
  else none

/-- Four hexadecimal digits and what follows them. -/
def hex4? : Text → Option (Nat × Text)
  | a :: b :: c :: d :: s => do
    some (((← hexValue? a) * 16 + (← hexValue? b)) * 256 + (← hexValue? c) * 16 + (← hexValue? d),
      s)
  | _ => none

/-- The code point of an escape of one letter. -/
def unescape? (c : CodePoint) : Option CodePoint :=
  if c = '"' ∨ c = '\\' ∨ c = '/' then some c
  else if c = 'b' then some '\x08'
  else if c = 'f' then some '\x0c'
  else if c = 'n' then some '\n'
  else if c = 'r' then some '\r'
  else if c = 't' then some '\t'
  else none

/-- The code point of an escape by number. A high surrogate takes the low one behind it. -/
def numberedEscape? (s : Text) : Option (CodePoint × Text) := do
  let (high, s) ← hex4? s
  let pair : Option (Nat × Text) := do
    if high < 0xD800 ∨ 0xDBFF < high then none
    let (low, s) ← hex4? (← Text.after? "\\u" s)
    if low < 0xDC00 ∨ 0xDFFF < low then none
    some (0x10000 + (high - 0xD800) * 0x400 + (low - 0xDC00), s)
  let (n, s) := pair.getD (high, s)
  some (← CodePoint.ofNat? n, s)

/-- The rest of a string behind its opening quote, and what follows it. -/
def stringBody? (s : Text) : Option (Text × Text) :=
  match s with
  | [] => none
  | c :: s =>
    if c = '"' then some ([], s)
    else if c = '\\' then
      match s with
      | [] => none
      | d :: s =>
        if d = 'u' then
          match numberedEscape? s with
          | none => none
          | some (e, rest) =>
            if rest.length < s.length then
              (stringBody? rest).map fun (t, after) => (e :: t, after)
            else none
        else
          match unescape? d with
          | none => none
          | some e => (stringBody? s).map fun (t, after) => (e :: t, after)
    else if c.val < 0x20 then none
    else (stringBody? s).map fun (t, after) => (c :: t, after)
termination_by s.length
decreasing_by all_goals simp_all only [List.length_cons]; omega

/-- The number that decimal digits stand for. -/
def digitsValue (ds : Text) : Nat := ds.foldl (fun n c => n * 10 + (c.val - 48)) 0

/-- An exponent mark with its digits, and what follows them. -/
def exponent? (s : Text) : Option (Int × Text) :=
  match s with
  | [] => none
  | e :: s =>
    if e = 'e' ∨ e = 'E' then
      let negative := s.head? = some '-'
      let digits := if s.head? = some '-' ∨ s.head? = some '+' then s.tail else s
      let run := digits.takeWhile CodePoint.isAsciiDigit
      if run = [] then none
      else
        some (if negative then -(digitsValue run : Int) else digitsValue run,
          digits.dropWhile CodePoint.isAsciiDigit)
    else none

/-- The double nearest to `n * 10 ^ e`. Exponents beyond the range of doubles are cut, which changes
no result. -/
def scientific (n : Nat) (e : Int) (digits : Nat) : Float :=
  if n = 0 then 0
  else
    let e := max (-400 - (digits : Int)) (min 400 e)
    if e < 0 then Float.ofScientific n true e.natAbs else Float.ofScientific n false e.natAbs

/-- A number and what follows it. It is an integer if it has neither a point nor an exponent. -/
def number? (s : Text) : Option (Json × Text) := do
  let negative := s.head? = some '-'
  let s := if negative then s.tail else s
  let run := s.takeWhile CodePoint.isAsciiDigit
  let run := if run.head? = some '0' then run.take 1 else run
  if run = [] then none
  let s := s.drop run.length
  let fraction : Text :=
    match s with
    | [] => []
    | c :: t => if c = '.' then t.takeWhile CodePoint.isAsciiDigit else []
  let s := if fraction = [] then s else s.drop (fraction.length + 1)
  match exponent? s with
  | none =>
    if fraction = [] then
      let n : Int := digitsValue run
      some (int (if negative then -n else n), s)
    else
      let x := scientific (digitsValue (run ++ fraction)) (-(fraction.length : Int))
        (run.length + fraction.length)
      some (float (if negative then -x else x), s)
  | some (e, s) =>
    let x := scientific (digitsValue (run ++ fraction)) (e - fraction.length)
      (run.length + fraction.length)
    some (float (if negative then -x else x), s)

/-- A value that is one word. -/
def word? (s : Text) : Option (Json × Text) :=
  let words : List (Text × Json) := [("null", null), ("true", bool true), ("false", bool false),
    ("NaN", float (0.0 / 0.0)), ("Infinity", float (1.0 / 0.0)), ("-Infinity", float (-1.0 / 0.0))]
  words.findSome? fun (w, v) => (Text.after? w s).map fun rest => (v, rest)

mutual

/-- A value and what follows it. The fuel bounds the number of values. -/
def value? (fuel : Nat) (s : Text) : Option (Json × Text) :=
  match fuel with
  | 0 => none
  | fuel + 1 =>
    match s with
    | [] => none
    | c :: rest =>
      if c = '"' then (stringBody? rest).map fun (t, after) => (string t, after)
      else if c = '[' then
        match Text.after? "]" (skipSpace rest) with
        | some after => some (array [], after)
        | none => (items? fuel rest).map fun (vs, after) => (array vs, after)
      else if c = '\x7b' then
        match Text.after? "\x7d" (skipSpace rest) with
        | some after => some (object [], after)
        | none => (members? fuel [] rest).map fun (ms, after) => (object ms, after)
      else (word? s).orElse fun _ => number? s

/-- The items up to the closing bracket. -/
def items? (fuel : Nat) (s : Text) : Option (List Json × Text) :=
  match fuel with
  | 0 => none
  | fuel + 1 => do
    let (v, s) ← value? fuel (skipSpace s)
    match skipSpace s with
    | [] => none
    | c :: s =>
      if c = ']' then some ([v], s)
      else if c = ',' then (items? fuel s).map fun (vs, after) => (v :: vs, after)
      else none

/-- The members up to the closing brace, added to those read before. -/
def members? (fuel : Nat) (before : List (Text × Json)) (s : Text) :
    Option (List (Text × Json) × Text) :=
  match fuel with
  | 0 => none
  | fuel + 1 => do
    let (k, s) ← stringBody? (← Text.after? "\"" (skipSpace s))
    let (v, s) ← value? fuel (skipSpace (← Text.after? ":" (skipSpace s)))
    let ms := setMember k v before
    match skipSpace s with
    | [] => none
    | c :: s =>
      if c = '\x7d' then some (ms, s) else if c = ',' then members? fuel ms s else none

end

/-- The value that the whole text stands for. -/
def parse? (s : Text) : Option Json := do
  let (v, rest) ← value? (s.length + 1) (skipSpace s)
  if skipSpace rest = [] then some v else none

end SitePreview.Json
