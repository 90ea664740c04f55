import SitePreview.Text.CodePoint

/-! Operations on texts: prefixes, splitting, joining, replacing, order and numbers in decimal. -/

namespace SitePreview.Text

/-- What follows the prefix `p`, or `none` when the text starts otherwise. -/
def after? : Text → Text → Option Text
  | [], s => some s
  | _ :: _, [] => none
  | p :: ps, c :: s => if p = c then after? ps s else none

theorem eq_append_of_after? {p s r : Text} (h : after? p s = some r) : s = p ++ r := by
  induction p generalizing s with
  | nil => simpa [after?] using h
  | cons c p ih =>
    cases s with
    | nil => simp [after?] at h
    | cons d s =>
      by_cases hcd : c = d
      · simp [after?, hcd] at h
        simp [hcd, ih h]
      · simp [after?, hcd] at h

@[simp] theorem after?_append (p r : Text) : after? p (p ++ r) = some r := by
  induction p with
  | nil => rfl
  | cons c p ih => simp [after?, ih]

/-- The text without the prefix `p`, or unchanged when it starts otherwise. -/
def dropPrefix (p s : Text) : Text := (after? p s).getD s

def startsWith (s p : Text) : Bool := p.isPrefixOf s

def endsWith (s p : Text) : Bool := p.isSuffixOf s

/-- The text holds `p` somewhere. -/
def includes (p : Text) : Text → Bool
  | [] => p.isEmpty
  | c :: s => p.isPrefixOf (c :: s) || includes p s

/-- The parts between separators; a text without separator is its only part. -/
def splitOn (separator : CodePoint) : Text → List Text
  | [] => [[]]
  | c :: s =>
    if c = separator then [] :: splitOn separator s
    else
      match splitOn separator s with
      | [] => [[c]]
      | part :: parts => (c :: part) :: parts

theorem splitOn_ne_nil (separator : CodePoint) (s : Text) : splitOn separator s ≠ [] := by
  cases s with
  | nil => simp [splitOn]
  | cons c s =>
    simp only [splitOn]
    split
    · simp
    · split <;> simp

/-- The texts one after another with the separator between them. -/
def join (separator : Text) : List Text → Text
  | [] => []
  | [t] => t
  | t :: u :: ts => t ++ separator ++ join separator (u :: ts)

theorem join_cons (separator t : Text) {ts : List Text} (h : ts ≠ []) :
    join separator (t :: ts) = t ++ separator ++ join separator ts := by
  cases ts with
  | nil => exact absurd rfl h
  | cons u us => rfl

/-- The parts with the separator between them are the text. -/
@[simp] theorem join_splitOn (separator : CodePoint) (s : Text) :
    join [separator] (splitOn separator s) = s := by
  induction s with
  | nil => rfl
  | cons c s ih =>
    have hne := splitOn_ne_nil separator s
    by_cases h : c = separator
    · simp [splitOn, h, join_cons _ _ hne, ih]
    · cases hs : splitOn separator s with
      | nil => exact absurd hs hne
      | cons part parts =>
        rw [hs] at ih
        cases parts with
        | nil => simp_all [splitOn, join]
        | cons u us => simp_all [splitOn, join]

def ofLines (ls : List Text) : Text := join ['\n'] ls

/-- The text whose lines are the strings. -/
def ofStrings (ls : List String) : Text := ofLines (ls.map ofString)

def replace (old : CodePoint) (new : Text) (s : Text) : Text :=
  s.flatMap fun c => if c = old then new else [c]

/-- Every carriage return before a line feed is dropped. -/
def normalizeLineEnds : Text → Text
  | [] => []
  | c :: s =>
    if c = '\r' ∧ s.head? = some '\n' then normalizeLineEnds s else c :: normalizeLineEnds s

/-- Every carriage return becomes a line feed, and so does one with the line feed behind it. -/
def unifyLineEnds : Text → Text
  | [] => []
  | c :: s =>
    if c = '\r' then
      if s.head? = some '\n' then unifyLineEnds s else '\n' :: unifyLineEnds s
    else c :: unifyLineEnds s

/-- ASCII capitals become small letters. It is used to compare with ASCII names only, for which a
wider case map gives the same answers. -/
def toLower (s : Text) : Text := s.map CodePoint.toAsciiLower

/-- The text without the trailing code points that satisfy `p`. -/
def dropRightWhile (p : CodePoint → Bool) (s : Text) : Text := (s.reverse.dropWhile p).reverse

/-- The longest suffix whose code points all satisfy `p`. -/
def takeRightWhile (p : CodePoint → Bool) (s : Text) : Text := (s.reverse.takeWhile p).reverse

def ofNat (n : Nat) : Text := ofString (Nat.repr n)

/-- The number in decimal, with a minus sign when it is negative. -/
def ofInt (i : Int) : Text := if i < 0 then '-' :: ofNat i.natAbs else ofNat i.natAbs

/-- The text with the fill code point in front up to the given length. -/
def padLeft (n : Nat) (fill : CodePoint) (s : Text) : Text :=
  List.replicate (n - s.length) fill ++ s

/-- The text with the fill code point behind it up to the given length. -/
def padRight (n : Nat) (fill : CodePoint) (s : Text) : Text :=
  s ++ List.replicate (n - s.length) fill

/-- Copies of the text one after another. -/
def repeated (n : Nat) (s : Text) : Text := (List.replicate n s).flatten

/-- The texts in code point order. -/
def sort (ts : List Text) : List Text := ts.mergeSort fun a b => decide (a ≤ b)

/-- The texts without repetitions, each at its first place. -/
def distinct (ts : List Text) : List Text :=
  (ts.foldl (fun seen t => if seen.contains t then seen else t :: seen) []).reverse

end SitePreview.Text
