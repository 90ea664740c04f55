import SitePreview.Text.Fold
import SitePreview.Text.Blank

/-! Searching a document for tags. A recogniser looks at the text from a place on and gives what
follows the tag that stands there. -/

namespace SitePreview.Markup

open Text

structure Found where
  before : Text
  tag : Text
  after : Text

/-- The start of a text up to what is left of it. -/
def covered (s rest : Text) : Text := s.take (s.length - rest.length)

/-- The first place at which the recogniser succeeds. -/
def first? (recognise : Text → Option Text) : Text → Option Found
  | [] => none
  | c :: s =>
    match recognise (c :: s) with
    | some rest => some ⟨[], covered (c :: s) rest, rest⟩
    | none => (first? recognise s).map fun f => { f with before := c :: f.before }

/-- The last place at which the recogniser succeeds. -/
def last? (recognise : Text → Option Text) : Text → Option Found
  | [] => none
  | c :: s =>
    match last? recognise s with
    | some f => some { f with before := c :: f.before }
    | none => (recognise (c :: s)).map fun rest => ⟨[], covered (c :: s) rest, rest⟩

/-- What follows the next end of a tag. -/
def tagEnd? (s : Text) : Option Text := after? ">" (s.dropWhile fun c : CodePoint => c ≠ '>')

/-- The start tag of the element, in letters of any case. -/
def startTag? (element s : Text) : Option Text := do
  tagEnd? (← afterWord? ('<' :: element) s)

/-- The start of a start tag of the element, in letters of any case. -/
def startTagName? (element s : Text) : Option Text := afterWord? ('<' :: element) s

/-- The end tag of the element, in letters of any case, perhaps with white space in it. -/
def endTag? (element s : Text) : Option Text := do
  after? ">" (skipBlanks (← afterFolded? ("</" ++ element) s))

end SitePreview.Markup
