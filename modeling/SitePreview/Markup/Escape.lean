import SitePreview.Text.Fold

/-! Escapes that keep inserted text inside its place: character references for attributes and
titles, and a backslash in end tags for the text of scripts and styles. -/

namespace SitePreview.Markup

/-- A code point with a character reference in place of each mark of the markup. -/
def escapePoint (c : CodePoint) : Text :=
  if c = '&' then "&amp;"
  else if c = '<' then "&lt;"
  else if c = '>' then "&gt;"
  else if c = '"' then "&quot;"
  else if c = '\'' then "&#x27;"
  else [c]

/-- The text with character references in place of the marks of the markup. -/
def escape (t : Text) : Text := t.flatMap escapePoint

/-- The text with a backslash in the start of each end tag of the element, in letters of any
case. -/
def escapeEndTags (element : Text) : Text → Text
  | [] => []
  | c :: s =>
    if c = '<' ∧ (Text.afterFolded? ('/' :: element) s).isSome then
      c :: '\\' :: escapeEndTags element s
    else c :: escapeEndTags element s

end SitePreview.Markup
