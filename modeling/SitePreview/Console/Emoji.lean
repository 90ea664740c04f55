import SitePreview.Console.EmojiTable
import SitePreview.Text.Blank
import SitePreview.Text.SmallLetters

/-! Emoji by name: a name between colons stands for its emoji. Behind the name, `-text` asks for the
plain look and `-emoji` for the coloured one. What names no emoji stays as it is. -/

namespace SitePreview.Console

open Text

/-- The selectors of the looks that a name may ask for. -/
def emojiLooks : List (Text × CodePoint) := [("-emoji", '\uFE0F'), ("-text", '\uFE0E')]

/-- The emoji for what stands between two colons. -/
def emoji? (between : Text) : Option Text :=
  let look := emojiLooks.find? fun l => between.endsWith l.1
  let name : Text := between.take (between.length - (look.map fun l => l.1.length).getD 0)
  (emojiTable.lookup name.lower).map fun e => e ++ (look.map Prod.snd).toList

/-- What stands between the colon in front of a text and the next one, and what follows that. A name
holds no white space. -/
def betweenColons? (s : Text) : Option (Text × Text) :=
  let isName (c : CodePoint) : Bool := c ≠ ':' && !c.isBlank
  let name : Text := s.takeWhile isName
  (after? ":" (s.drop name.length)).map fun rest => (name, rest)

/-- The text with emoji in place of their names. -/
def withEmoji (s : Text) : Text :=
  match s with
  | [] => []
  | c :: s =>
    if c = ':' then
      match betweenColons? s with
      | none => c :: withEmoji s
      | some (between, rest) =>
        if rest.length < s.length + 1 then
          (emoji? between).getD (":" ++ between ++ ":") ++ withEmoji rest
        else []
    else c :: withEmoji s
termination_by s.length

end SitePreview.Console
