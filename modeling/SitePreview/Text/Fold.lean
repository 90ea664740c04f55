import SitePreview.Text.Basic
import SitePreview.Text.Word

/-! Letters regardless of case. A small ASCII letter stands for itself, its capital and the few
other code points whose case map leads to it: the long s, the dotless and the dotted i and the
Kelvin sign. -/

namespace SitePreview

/-- The small letter that a code point stands for regardless of case. -/
def CodePoint.fold (c : CodePoint) : CodePoint :=
  if c.val = 0x17F then 's'
  else if c.val = 0x130 ∨ c.val = 0x131 then 'i'
  else if c.val = 0x212A then 'k'
  else c.toAsciiLower

namespace Text

/-- What follows the word `p`, written in small letters, in letters of any case. -/
def afterFolded? : Text → Text → Option Text
  | [], s => some s
  | _ :: _, [] => none
  | p :: ps, c :: s => if p = c.fold then afterFolded? ps s else none

/-- What follows the word in letters of any case, if the word ends there. -/
def afterWord? (word s : Text) : Option Text := do
  let rest ← afterFolded? word s
  if wordEnds rest then some rest else none

/-- The word occurs in letters of any case. -/
def includesFolded (word : Text) : Text → Bool
  | [] => word.isEmpty
  | c :: s => (afterFolded? word (c :: s)).isSome || includesFolded word s

end Text

end SitePreview
