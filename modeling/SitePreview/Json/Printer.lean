import SitePreview.Json.Basic
import SitePreview.Decimal.Shortest

/-! JSON texts. A style says whether code points beyond ASCII are escaped and how items are set
apart; all styles escape quotes, backslashes and control characters. -/

namespace SitePreview.Json

/-- How values are written. With an indentation every item stands on a line of its own. -/
structure Style where
  asciiOnly : Bool
  separator : Text
  colon : Text
  indent : Option Nat

namespace Style

/-- On one line without spaces, code points as they are. -/
def canonical : Style := ⟨false, ",", ":", none⟩

/-- On one line with spaces behind commas and colons, code points as they are. -/
def line : Style := ⟨false, ", ", ": ", none⟩

/-- On indented lines, in ASCII. -/
def pretty : Style := ⟨true, ",", ": ", some 2⟩

/-- On one line, in ASCII. -/
def ascii : Style := ⟨true, ", ", ": ", none⟩

end Style

/-- The lower-case hexadecimal digit of a number below 16. -/
def hexDigit (n : Nat) : CodePoint := Char.ofNat (if n < 10 then 48 + n else 87 + n)

def hex4 (n : Nat) : Text :=
  [hexDigit (n / 4096 % 16), hexDigit (n / 256 % 16), hexDigit (n / 16 % 16), hexDigit (n % 16)]

/-- A code point by its number: one escape, or the two of a surrogate pair. -/
def escapeNumber (n : Nat) : Text :=
  if n < 0x10000 then "\\u" ++ hex4 n
  else "\\u" ++ hex4 (0xD800 + (n - 0x10000) / 0x400) ++ "\\u" ++ hex4 (0xDC00 + n % 0x400)

/-- A code point inside a string. -/
def escape (asciiOnly : Bool) (c : CodePoint) : Text :=
  if c = '"' then "\\\""
  else if c = '\\' then "\\\\"
  else if c = '\n' then "\\n"
  else if c = '\r' then "\\r"
  else if c = '\t' then "\\t"
  else if c.val = 0x0C then "\\f"
  else if c.val = 0x08 then "\\b"
  else if c.val < 0x20 || (asciiOnly && 0x7E < c.val) then escapeNumber c.val
  else [c]

def quote (asciiOnly : Bool) (t : Text) : Text := "\"" ++ t.flatMap (escape asciiOnly) ++ "\""

/-- The number in JSON, which has words of its own for what is not finite. -/
def floatText (x : Float) : Text :=
  match Decimal.Value.ofFloat x with
  | .notANumber => "NaN"
  | .infinite negative => if negative then "-Infinity" else "Infinity"
  | .finite _ => Decimal.shortest x

/-- The items between brackets. `depth` is the depth of the brackets. -/
def bracketed (st : Style) (depth : Nat) (openMark closeMark : Text) (items : List Text) : Text :=
  if items.isEmpty then openMark ++ closeMark
  else
    match st.indent with
    | none => openMark ++ Text.join st.separator items ++ closeMark
    | some width =>
      let lineStart (d : Nat) : Text := '\n' :: List.replicate (d * width) ' '
      openMark ++ lineStart (depth + 1) ++
        Text.join (st.separator ++ lineStart (depth + 1)) items ++ lineStart depth ++ closeMark

mutual

/-- The text of a value inside brackets of the given depth. -/
def textAt (st : Style) (depth : Nat) : Json → Text
  | null => "null"
  | bool b => if b then "true" else "false"
  | int i => .ofInt i
  | float x => floatText x
  | string t => quote st.asciiOnly t
  | array items => bracketed st depth "[" "]" (itemTexts st (depth + 1) items)
  | object members => bracketed st depth "\x7b" "\x7d" (memberTexts st (depth + 1) members)

def itemTexts (st : Style) (depth : Nat) : List Json → List Text
  | [] => []
  | v :: vs => textAt st depth v :: itemTexts st depth vs

def memberTexts (st : Style) (depth : Nat) : List (Text × Json) → List Text
  | [] => []
  | (k, v) :: ms =>
    (quote st.asciiOnly k ++ st.colon ++ textAt st depth v) :: memberTexts st depth ms

end

def toText (st : Style) (v : Json) : Text := textAt st 0 v

end SitePreview.Json
