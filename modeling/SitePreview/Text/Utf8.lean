import SitePreview.Text.Basic

/-! UTF-8. Writing fails at a surrogate, and reading accepts exactly the shortest form of each code
point that is not one. -/

-- The zero of sums is that of the core library, beside Mathlib too.
attribute [local instance (2000)] Zero.ofOfNat0

namespace SitePreview

/-- The bytes of a code point, after the four forms of UTF-8. -/
def CodePoint.utf8 (c : CodePoint) : List UInt8 :=
  let n := c.val
  let tail (k : Nat) : UInt8 := .ofNat (0x80 + n / 64 ^ k % 64)
  if n < 0x80 then [.ofNat n]
  else if n < 0x800 then [.ofNat (0xC0 + n / 64), tail 0]
  else if n < 0x10000 then [.ofNat (0xE0 + n / 64 ^ 2), tail 1, tail 0]
  else [.ofNat (0xF0 + n / 64 ^ 3), tail 2, tail 1, tail 0]

namespace Text

/-- The text holds no surrogate. -/
def isUtf8 (t : Text) : Bool := t.all fun c => !c.isSurrogate

/-- The bytes of a text without surrogates. -/
def utf8Bytes (t : Text) : List UInt8 := t.flatMap CodePoint.utf8

/-- A run of surrogates in a text: the place of the first one, the first one and the length of the
run. -/
structure EncodeError where
  position : Nat
  first : CodePoint
  length : Nat
deriving DecidableEq

/-- The first run of surrogates in a text, behind `position` others. -/
def encodeErrorFrom? (position : Nat) : Text → Option EncodeError
  | [] => none
  | c :: s =>
    if c.isSurrogate then
      some ⟨position, c, 1 + (s.takeWhile CodePoint.isSurrogate).length⟩
    else encodeErrorFrom? (position + 1) s

/-- The bytes of a text, or the surrogates that keep it from having some. -/
def toUtf8 (t : Text) : Except EncodeError (List UInt8) :=
  match encodeErrorFrom? 0 t with
  | some e => .error e
  | none => .ok t.utf8Bytes

/-- The number of bytes of a text, where a surrogate counts as one. -/
def utf8Size (t : Text) : Nat :=
  (t.map fun c => if c.isSurrogate then 1 else c.utf8.length).sum

/-- The low six bits of a byte that follows the first one of a code point. -/
def continuation? (b : UInt8) : Option Nat :=
  if 0x80 ≤ b.toNat && b.toNat < 0xC0 then some (b.toNat - 0x80) else none

/-- The code point of a number that the form with this many bytes is the shortest for. -/
def shortestForm? (least n : Nat) : Option CodePoint :=
  if n < least then none
  else (CodePoint.ofNat? n).filter fun c => !c.isSurrogate

/-- The text that bytes stand for, or `none` if they are not UTF-8. -/
def ofUtf8? : List UInt8 → Option Text
  | [] => some []
  | a :: bs =>
    let n := a.toNat
    if n < 0x80 then do
      let c ← CodePoint.ofNat? n
      (ofUtf8? bs).map (c :: ·)
    else if n < 0xC0 then none
    else if n < 0xE0 then
      match bs with
      | b :: bs => do
        let c ← shortestForm? 0x80 ((n - 0xC0) * 64 + (← continuation? b))
        (ofUtf8? bs).map (c :: ·)
      | _ => none
    else if n < 0xF0 then
      match bs with
      | b :: d :: bs => do
        let c ← shortestForm? 0x800
          ((n - 0xE0) * 64 ^ 2 + (← continuation? b) * 64 + (← continuation? d))
        (ofUtf8? bs).map (c :: ·)
      | _ => none
    else if n < 0xF8 then
      match bs with
      | b :: d :: e :: bs => do
        let c ← shortestForm? 0x10000 ((n - 0xF0) * 64 ^ 3 + (← continuation? b) * 64 ^ 2 +
          (← continuation? d) * 64 + (← continuation? e))
        (ofUtf8? bs).map (c :: ·)
      | _ => none
    else none

/-- The number of bytes that follow the first byte of a code point, and the range of the first one
of them. -/
def following? (n : Nat) : Option (Nat × Nat × Nat) :=
  if n < 0x80 then some (0, 0x80, 0xBF)
  else if n < 0xC2 then none
  else if n < 0xE0 then some (1, 0x80, 0xBF)
  else if n < 0xF0 then
    some (2, if n = 0xE0 then 0xA0 else 0x80, if n = 0xED then 0x9F else 0xBF)
  else if n < 0xF5 then
    some (3, if n = 0xF0 then 0x90 else 0x80, if n = 0xF4 then 0x8F else 0xBF)
  else none

/-- The bytes that continue a code point: at most `count`, the first one in a range of its own. -/
def continuing (count least greatest : Nat) : List UInt8 → List UInt8
  | [] => []
  | b :: bs =>
    match count with
    | 0 => []
    | count + 1 =>
      if least ≤ b.toNat && b.toNat ≤ greatest then b :: continuing count 0x80 0xBF bs else []

/-- Stands for bytes that are no code point. -/
def replacement : CodePoint := ⟨0xFFFD, by decide⟩

/-- The text that bytes stand for, with a replacement for each of the longest runs of bytes that
start a code point without ending it, and for each byte that starts none. -/
def ofUtf8Lossy (bs : List UInt8) : Text :=
  match bs with
  | [] => []
  | a :: bs =>
    match following? a.toNat with
    | none => replacement :: ofUtf8Lossy bs
    | some (count, least, greatest) =>
      let run := continuing count least greatest bs
      (if run.length = count then (ofUtf8? (a :: run)).getD [replacement] else [replacement]) ++
        ofUtf8Lossy (bs.drop run.length)
termination_by bs.length
decreasing_by all_goals simp only [List.length_cons, List.length_drop]; omega

end Text

end SitePreview
