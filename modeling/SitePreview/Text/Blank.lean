import SitePreview.Text.Basic

/-! White space: the blanks of Unicode 14 with the four information separators, and the blanks that
stay within a line, space and tab. -/

namespace SitePreview.CodePoint

/-- White space of any kind, line ends and information separators included. -/
def isBlank (c : CodePoint) : Bool :=
  c.inRanges [(0x9, 0xD), (0x1C, 0x20), (0x85, 0x85), (0xA0, 0xA0), (0x1680, 0x1680),
    (0x2000, 0x200A), (0x2028, 0x2029), (0x202F, 0x202F), (0x205F, 0x205F), (0x3000, 0x3000)]

/-- White space without the information separators. -/
def isSpace (c : CodePoint) : Bool := c.isBlank && !(0x1C ≤ c.val && c.val ≤ 0x1F)

def isInlineBlank (c : CodePoint) : Bool := c = ' ' || c = '\t'

example : [' ', '\t', '\n', '\r', '\x0b', '\x0c'].all (fun c => (ofChar c).isBlank) = true := rfl

end SitePreview.CodePoint

namespace SitePreview.Text

/-- The text without leading white space. -/
def skipBlanks (s : Text) : Text := s.dropWhile CodePoint.isBlank

/-- The text without leading white space, of which there has to be some. -/
def skipSomeBlanks? : Text → Option Text
  | [] => none
  | c :: s => if c.isBlank then some (skipBlanks s) else none

/-- What follows the word and some white space behind it. -/
def wordAndBlanks? (word s : Text) : Option Text := do skipSomeBlanks? (← after? word s)

/-- The text without leading spaces and tabs. -/
def skipInline (s : Text) : Text := s.dropWhile CodePoint.isInlineBlank

/-- The text without white space at either end. -/
def strip (s : Text) : Text := dropRightWhile CodePoint.isBlank (skipBlanks s)

/-- The text without white space at either end, where information separators are none. -/
def trim (s : Text) : Text := dropRightWhile CodePoint.isSpace (s.dropWhile CodePoint.isSpace)

/-- The text holds nothing but white space. -/
def isBlank (s : Text) : Bool := s.all CodePoint.isBlank

end SitePreview.Text
