import SitePreview.Basic

/-! Code points and texts. A text is a list of code points and, unlike a core string, may hold
surrogates: they reach the program through file contents and have to be refused or reported, not
lost. Texts are ordered code point by code point. -/

namespace SitePreview

/-- A Unicode code point, surrogates included. -/
structure CodePoint where
  val : Nat
  lt_bound : val < 0x110000
deriving DecidableEq

/-- A sequence of code points. -/
abbrev Text := List CodePoint

namespace CodePoint

instance : Inhabited CodePoint := ⟨⟨0, by decide⟩⟩

def ofChar (c : Char) : CodePoint where
  val := c.toNat
  lt_bound := by
    have h := c.valid
    simp only [UInt32.isValidChar, Nat.isValidChar] at h
    show c.val.toNat < 0x110000
    omega

instance : Coe Char CodePoint := ⟨ofChar⟩

/-- The code point of a number, or `none` for a number above the last one. -/
def ofNat? (n : Nat) : Option CodePoint :=
  if h : n < 0x110000 then some ⟨n, h⟩ else none

def ofFin (n : Fin 0x110000) : CodePoint := ⟨n.val, n.isLt⟩

instance : LT CodePoint := ⟨fun a b => a.val < b.val⟩

instance : DecidableLT CodePoint := fun a b => inferInstanceAs (Decidable (a.val < b.val))

@[ext] theorem ext {a b : CodePoint} (h : a.val = b.val) : a = b := by
  cases a; cases b; cases h; rfl

instance : Std.Irrefl (α := CodePoint) (· < ·) := ⟨fun a => Nat.lt_irrefl a.val⟩

instance : Std.Asymm (α := CodePoint) (· < ·) := ⟨fun _ _ => Nat.lt_asymm⟩

instance : Std.Trichotomous (α := CodePoint) (· < ·) :=
  ⟨fun _ _ h k => ext (Nat.le_antisymm (Nat.not_lt.mp k) (Nat.not_lt.mp h))⟩

instance : Trans (α := CodePoint) (· < ·) (· < ·) (· < ·) := ⟨Nat.lt_trans⟩

/-- Half of a surrogate pair, which no UTF-8 text holds. -/
def isSurrogate (c : CodePoint) : Bool := 0xD800 ≤ c.val && c.val ≤ 0xDFFF

/-- The character of a code point that is not a surrogate. -/
def toChar? (c : CodePoint) : Option Char :=
  if h : c.val.isValidChar then some (Char.ofNatAux c.val h) else none

/-- The code point lies in one of the closed ranges. -/
def inRanges (c : CodePoint) (ranges : List (Nat × Nat)) : Bool :=
  ranges.any fun r => r.1 ≤ c.val && c.val ≤ r.2

def isAsciiUpper (c : CodePoint) : Bool := 65 ≤ c.val && c.val ≤ 90

def isAsciiLower (c : CodePoint) : Bool := 97 ≤ c.val && c.val ≤ 122

def isAsciiDigit (c : CodePoint) : Bool := 48 ≤ c.val && c.val ≤ 57

def isAsciiLetter (c : CodePoint) : Bool := c.isAsciiUpper || c.isAsciiLower

/-- An ASCII capital becomes its small letter; all else stays. -/
def toAsciiLower (c : CodePoint) : CodePoint :=
  if h : c.isAsciiUpper then
    ⟨c.val + 32, by simp only [isAsciiUpper, Bool.and_eq_true, decide_eq_true_eq] at h; omega⟩
  else c

/-- An ASCII small letter becomes its capital; all else stays. -/
def toAsciiUpper (c : CodePoint) : CodePoint :=
  if c.isAsciiLower then ⟨c.val - 32, by have := c.lt_bound; omega⟩ else c

end CodePoint

namespace Text

def ofString (s : String) : Text := s.toList.map CodePoint.ofChar

instance : Coe String Text := ⟨ofString⟩

/-- The string of a text, or `none` when the text holds a surrogate. -/
def toString? (t : Text) : Option String := (t.mapM CodePoint.toChar?).map String.ofList

/-! ### Surrogate pairs

In texts that pass through escapes by number, two halves that meet are read back as the one code
point that they stand for. -/

/-- The code point of a surrogate pair. -/
def pairOf? (high low : CodePoint) : Option CodePoint :=
  if 0xD800 ≤ high.val ∧ high.val < 0xDC00 ∧ 0xDC00 ≤ low.val ∧ low.val < 0xE000 then
    CodePoint.ofNat? (0x10000 + (high.val - 0xD800) * 0x400 + (low.val - 0xDC00))
  else none

/-- The text with all surrogate pairs joined. -/
def joinSurrogates : Text → Text
  | [] => []
  | [c] => [c]
  | c :: d :: s =>
    match pairOf? c d with
    | some p => p :: joinSurrogates s
    | none => c :: joinSurrogates (d :: s)

end Text

end SitePreview
