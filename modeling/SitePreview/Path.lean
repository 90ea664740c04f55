import SitePreview.Text.Basic

/-! Slash-separated paths. Empty and `.` segments vanish, `..` stays, and an absolute path starts
with one slash or with exactly two. -/

namespace SitePreview

/-- A path: the slashes in front, if any, and the segments. -/
structure Path where
  root : Text
  segments : List Text
deriving DecidableEq

namespace Path

/-- The path that a text names. -/
def ofText (t : Text) : Path :=
  let slashes := t.takeWhile fun c : CodePoint => c = '/'
  let root : Text := if slashes.length = 2 then "//" else slashes.take 1
  ⟨root, (t.splitOn '/').filter fun s => s ≠ [] && s ≠ "."⟩

def isAbsolute (p : Path) : Bool := p.root ≠ []

/-- The last segment; empty for a path without segments. -/
def name (p : Path) : Text := (p.segments.getLast?).getD []

/-- The segments in front of the last. -/
def directories (p : Path) : List Text := p.segments.dropLast

/-- The part of a name from its last point on, which neither starts nor ends the name. -/
def suffixOf (name : Text) : Text :=
  let extension := Text.takeRightWhile (fun c : CodePoint => c ≠ '.') name
  if extension = [] ∨ name.length ≤ extension.length + 1 then [] else '.' :: extension

/-- The suffix of the last segment, with its point; empty if there is none. -/
def suffix (p : Path) : Text := suffixOf p.name

/-- The text of the path, with single slashes between its segments. -/
def toText (p : Path) : Text :=
  if p.root = [] ∧ p.segments = [] then "." else p.root ++ Text.join "/" p.segments

end Path

end SitePreview
