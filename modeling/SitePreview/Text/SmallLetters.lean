import SitePreview.Text.CaseTable

/-! Texts in small letters. Each capital has one small letter, but for the dotted I, whose dot
becomes a mark of its own, and for the sigma, which has another shape at the end of a word. -/

namespace SitePreview

namespace CodePoint

/-- The small letter of a code point, or the code point where it has none. -/
def small (c : CodePoint) : CodePoint :=
  match capitalRuns.find? fun r => r.1 ≤ c.val && c.val ≤ r.2.1 && (c.val - r.1) % r.2.2.1 = 0 with
  | some (first, _, _, low) => (ofNat? (low + (c.val - first))).getD c
  | none => c

def isCased (c : CodePoint) : Bool := c.inRanges casedRanges

/-- The code point is passed over where the end of a word is sought. -/
def isCaseIgnorable (c : CodePoint) : Bool := c.inRanges caseIgnorableRanges

end CodePoint

namespace Text

/-- The text goes on with a cased letter, whatever is passed over in front of it. -/
def startsCased (t : Text) : Bool :=
  match t.dropWhile CodePoint.isCaseIgnorable with
  | [] => false
  | c :: _ => c.isCased

/-- The text in small letters; `before` is what stands in front of it, backwards. -/
def lowerAfter (before : Text) : Text → Text
  | [] => []
  | c :: t =>
    let letters : Text :=
      if c.val = 0x3A3 then
        if startsCased before && !startsCased t then ['ς'] else ['σ']
      else if c.val = 0x130 then ['i', '\u0307']
      else if c.val < 0x80 then [c.toAsciiLower]
      else [c.small]
    letters ++ lowerAfter (c :: before) t

def lower (t : Text) : Text := lowerAfter [] t

example : lower "ΣΑΣ Ａ" = ("σας ａ" : Text) := by decide +kernel

end Text

end SitePreview
