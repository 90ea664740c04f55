import SitePreview.Text.Blank
import SitePreview.Text.Basic
import SitePreview.Text.Number
import SitePreview.Text.SmallLetters

/-! Styles of console text. A style is named by attributes, a colour, a colour behind `on` and an
address behind `link`, in any order. Two names of the same style have the same normal form; a name
that is no style stands for itself. -/

namespace SitePreview.Console

open Text

/-- The attributes in the order of normal forms. -/
def attributeNames : List Text :=
  ["bold", "dim", "italic", "underline", "blink", "blink2", "reverse", "conceal", "strike",
    "underline2", "frame", "encircle", "overline"]

def shortAttributes : List (Text × Text) :=
  [("b", "bold"), ("d", "dim"), ("i", "italic"), ("u", "underline"), ("r", "reverse"),
    ("c", "conceal"), ("s", "strike"), ("uu", "underline2"), ("o", "overline")]

def attribute? (name : Text) : Option Text :=
  if attributeNames.contains name then some name else shortAttributes.lookup name

def colourNames : List Text :=
  let rows : List Text := [
    "black red green yellow blue magenta cyan white bright_black bright_red bright_green",
    "bright_yellow bright_blue bright_magenta bright_cyan bright_white grey0 gray0 navy_blue",
    "dark_blue blue3 blue1 dark_green deep_sky_blue4 dodger_blue3 dodger_blue2 green4",
    "spring_green4 turquoise4 deep_sky_blue3 dodger_blue1 green3 spring_green3 dark_cyan",
    "light_sea_green deep_sky_blue2 deep_sky_blue1 spring_green2 cyan3 dark_turquoise",
    "turquoise2 green1 spring_green1 medium_spring_green cyan2 cyan1 dark_red deep_pink4",
    "purple4 purple3 blue_violet orange4 grey37 gray37 medium_purple4 slate_blue3 royal_blue1",
    "chartreuse4 dark_sea_green4 pale_turquoise4 steel_blue steel_blue3 cornflower_blue",
    "chartreuse3 cadet_blue sky_blue3 steel_blue1 pale_green3 sea_green3 aquamarine3",
    "medium_turquoise chartreuse2 sea_green2 sea_green1 aquamarine1 dark_slate_gray2",
    "dark_magenta dark_violet purple light_pink4 plum4 medium_purple3 slate_blue1 yellow4",
    "wheat4 grey53 gray53 light_slate_grey light_slate_gray medium_purple light_slate_blue",
    "dark_olive_green3 dark_sea_green light_sky_blue3 sky_blue2 dark_sea_green3",
    "dark_slate_gray3 sky_blue1 chartreuse1 light_green pale_green1 dark_slate_gray1 red3",
    "medium_violet_red magenta3 dark_orange3 indian_red hot_pink3 medium_orchid3",
    "medium_orchid medium_purple2 dark_goldenrod light_salmon3 rosy_brown grey63 gray63",
    "medium_purple1 gold3 dark_khaki navajo_white3 grey69 gray69 light_steel_blue3",
    "light_steel_blue yellow3 dark_sea_green2 light_cyan3 light_sky_blue1 green_yellow",
    "dark_olive_green2 dark_sea_green1 pale_turquoise1 deep_pink3 magenta2 hot_pink2 orchid",
    "medium_orchid1 orange3 light_pink3 pink3 plum3 violet light_goldenrod3 tan misty_rose3",
    "thistle3 plum2 khaki3 light_goldenrod2 light_yellow3 grey84 gray84 light_steel_blue1",
    "yellow2 dark_olive_green1 honeydew2 light_cyan1 red1 deep_pink2 deep_pink1 magenta1",
    "orange_red1 indian_red1 hot_pink dark_orange salmon1 light_coral pale_violet_red1",
    "orchid2 orchid1 orange1 sandy_brown light_salmon1 light_pink1 pink1 plum1 gold1",
    "navajo_white1 misty_rose1 thistle1 yellow1 light_goldenrod1 khaki1 wheat1 cornsilk1",
    "grey100 gray100 grey3 gray3 grey7 gray7 grey11 gray11 grey15 gray15 grey19 gray19 grey23",
    "gray23 grey27 gray27 grey30 gray30 grey35 gray35 grey39 gray39 grey42 gray42 grey46",
    "gray46 grey50 gray50 grey54 gray54 grey58 gray58 grey62 gray62 grey66 gray66 grey70",
    "gray70 grey74 gray74 grey78 gray78 grey82 gray82 grey85 gray85 grey89 gray89 grey93",
    "gray93"]
  rows.flatMap (Text.splitOn ' ')

/-- The greatest value of a part of a colour. -/
def maxComponent : Int := 255

/-- The text between a start and a closing parenthesis that ends the whole. -/
def inParentheses? (start s : Text) : Option Text :=
  (after? start s).bind fun rest => if rest.endsWith ")" then some rest.dropLast else none

/-- The word is the number of a colour. -/
def isColourNumber (word : Text) : Bool :=
  match inParentheses? "color(" word with
  | some n =>
    n ≠ [] && n.length ≤ 3 && n.all CodePoint.isAsciiDigit &&
      n.foldl (fun n c => n * 10 + (c.val - 48)) 0 ≤ 255
  | none => false

/-- The word is six hexadecimal digits behind a number sign. -/
def isColourCode (word : Text) : Bool :=
  match after? "#" word with
  | some ds => ds.length = 6 && ds.all fun c => c.isAsciiDigit || (97 ≤ c.val && c.val ≤ 102)
  | none => false

/-- The word names a colour by its red, green and blue. Where three parts are given that are no
integers, the fault about the first of those is the outcome. -/
def isColourMix (word : Text) : Except NumberFault Bool :=
  let isPart (c : CodePoint) : Bool := c.decimalDigit?.isSome || c.isBlank || c = ','
  match inParentheses? "rgb(" word with
  | none => .ok false
  | some s =>
    let parts := s.splitOn ','
    if parts.length = 3 && s.all isPart then
      (parts.mapM Text.integer).map fun ns => ns.all fun n => n ≤ maxComponent
    else .ok false

/-- The word names a colour: by name, by number, or by its red, green and blue. -/
def isColour (word : Text) : Except NumberFault Bool :=
  if word = "default" || colourNames.contains word || isColourCode word || isColourNumber word then
    .ok true
  else isColourMix word

/-- A style: its attributes, set or unset, its colours and its address. -/
structure Style where
  attributes : List (Text × Bool) := []
  colour : Option Text := none
  background : Option Text := none
  link : Option Text := none

def wordsOf (s : Text) : List Text :=
  (s.splitOn ' ').filter fun w => w ≠ []

/-- The style that words name. -/
def Style.ofWords (st : Style) : List Text → Except NumberFault (Option Style)
  | [] => .ok (some st)
  | word :: rest =>
    let small := word.lower
    let set (a : Text) (b : Bool) : List (Text × Bool) :=
      (a, b) :: st.attributes.filter fun e => e.1 ≠ a
    if small = "on" then
      match rest with
      | [] => .ok none
      | c :: rest => do
        if ← isColour c.lower then
          Style.ofWords { st with background := some c.lower } rest
        else return none
    else if small = "not" then
      match rest with
      | [] => .ok none
      | a :: rest =>
        match attribute? a with
        | some a => Style.ofWords { st with attributes := set a false } rest
        | none => .ok none
    else if small = "link" then
      match rest with
      | [] => .ok none
      | a :: rest => Style.ofWords { st with link := some a } rest
    else
      match attribute? small with
      | some a => Style.ofWords { st with attributes := set a true } rest
      | none => do
        if ← isColour small then Style.ofWords { st with colour := some small } rest
        else return none

/-- The normal form of a style. -/
def Style.text (st : Style) : Text :=
  let parts : List Text := attributeNames.filterMap fun a =>
    (st.attributes.lookup a).map fun b => if b then a else "not " ++ a
  let link : List Text := match st.link with
    | some l => [("link " : Text) ++ l]
    | none => []
  let background : List Text := match st.background with
    | some c => [("on " : Text) ++ c]
    | none => []
  let all := parts ++ st.colour.toList ++ background ++ link
  if all.isEmpty then "none" else Text.join " " all

/-- The style of a name, if it is one. -/
def Style.named (name : Text) : Except NumberFault (Option Style) :=
  let blanked : Text := name.map fun c => if c.isBlank then CodePoint.ofChar ' ' else c
  if name.strip = "none" then .ok (some {}) else Style.ofWords {} (wordsOf blanked)

/-- The normal form of the name of a style. -/
def normalStyle (name : Text) : Except NumberFault Text := do
  match ← Style.named name with
  | some st => return st.text
  | none => return name.strip.lower

end SitePreview.Console
