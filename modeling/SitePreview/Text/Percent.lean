import SitePreview.Text.Quoted

/-! Percent encoding: bytes that may not stand for themselves are written as a percent sign and two
hexadecimal digits. -/

namespace SitePreview.Text

/-- A code point that is never encoded. -/
def isUnreserved (c : CodePoint) : Bool :=
  c.isAsciiLetter || c.isAsciiDigit || ("-._~" : Text).contains c

/-- The text with all encoded that is neither unreserved nor in `safe`. -/
def percentEncoded (safe s : Text) : Text :=
  s.flatMap fun c =>
    if isUnreserved c || safe.contains c then [c]
    else
      c.utf8.flatMap fun b => '%' :: (hex 2 b.toNat).map CodePoint.toAsciiUpper

def hexDigitValue? (c : CodePoint) : Option Nat :=
  if c.isAsciiDigit then some (c.val - 48)
  else if c.isAsciiLower && c.val < 103 then some (c.val - 87)
  else if c.isAsciiUpper && c.val < 71 then some (c.val - 55)
  else none

/-- The bytes of a text whose encoded bytes are decoded. -/
def percentBytes : Text → List UInt8
  | [] => []
  | [a] => a.utf8
  | [a, b] => a.utf8 ++ b.utf8
  | a :: b :: c :: s =>
    if a = '%' then
      match hexDigitValue? b, hexDigitValue? c with
      | some m, some n => .ofNat (m * 16 + n) :: percentBytes s
      | _, _ => a.utf8 ++ percentBytes (b :: c :: s)
    else a.utf8 ++ percentBytes (b :: c :: s)

/-- The text that an encoded one stands for. -/
def percentDecoded (s : Text) : Text := ofUtf8Lossy (percentBytes s)

end SitePreview.Text
