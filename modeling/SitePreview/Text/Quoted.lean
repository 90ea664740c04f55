import SitePreview.Text.Printable
import SitePreview.Text.Utf8

/-! Texts in quotes for messages: what is not printable is escaped by its number, and the quotes are
single ones unless that would need an escape that double ones do not. -/

namespace SitePreview.Text

/-- The number in lower-case hexadecimal digits, with zeros in front up to the given length. -/
def hex (length n : Nat) : Text := padLeft length '0' ((Nat.toDigits 16 n).map CodePoint.ofChar)

/-- A code point inside quotes. -/
def quotedPoint (mark c : CodePoint) : Text :=
  if c = mark ∨ c = '\\' then ['\\', c]
  else if c = '\t' then "\\t"
  else if c = '\n' then "\\n"
  else if c = '\r' then "\\r"
  else if c.isPrintable then [c]
  else if c.val < 0x100 then "\\x" ++ hex 2 c.val
  else if c.val < 0x10000 then "\\u" ++ hex 4 c.val
  else "\\U" ++ hex 8 c.val

/-- The text in quotes. -/
def quoted (t : Text) : Text :=
  let mark : CodePoint := if t.contains '\'' && !t.contains '"' then '"' else '\''
  [mark] ++ t.flatMap (quotedPoint mark) ++ [mark]

/-- The text about surrogates that UTF-8 cannot write. -/
def EncodeError.message (e : EncodeError) : Text :=
  let what : Text :=
    if e.length = 1 then
      "character '\\u" ++ hex 4 e.first.val ++ "' in position " ++ ofNat e.position
    else "characters in position " ++ ofNat e.position ++ "-" ++ ofNat (e.position + e.length - 1)
  "'utf-8' codec can't encode " ++ what ++ ": surrogates not allowed"

end SitePreview.Text
