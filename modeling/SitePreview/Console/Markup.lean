import SitePreview.Console.Arguments
import SitePreview.Console.Emoji
import SitePreview.Console.Style

/-! Console markup: tags in square brackets open and close styles and do not show. A tag starts with
a small letter or one of `#`, `/` and `@`, and holds no further opening bracket. Backslashes in
front of a tag keep it from being one. A tag that starts with `@` names a handler, and its value is
read when it is closed. Between tags, emoji stand in place of their names. -/

namespace SitePreview.Console

open Text

/-- A tag: the name in front of its first sign of equality, and what follows that sign. -/
structure Tag where
  name : Text
  value : Option Text
deriving DecidableEq

def Tag.text (t : Tag) : Text :=
  match t.value with
  | none => "[" ++ t.name ++ "]"
  | some v => "[" ++ t.name ++ "=" ++ v ++ "]"

/-- Why markup is refused: a closing tag closes nothing, the arguments of a handler cannot be read,
or a colour is not made of integers. -/
inductive MarkupError
  | unmatched (tag : Tag) (position : Nat)
  | nothingOpen (position : Nat)
  | arguments (read value : Text) (fault : ArgumentFault)
  | colour (fault : NumberFault)
deriving DecidableEq

namespace MarkupError

def message : MarkupError → Text
  | unmatched tag position =>
    "closing tag '" ++ tag.text ++ "' at position " ++ ofNat position ++
      " doesn't match any open tag"
  | nothingOpen position =>
    "closing tag '[/]' at position " ++ ofNat position ++ " has nothing to close"
  | arguments read value (.form fault) =>
    "error parsing " ++ read.quoted ++ " in " ++ value.quoted ++ "; " ++ fault.message
  | arguments _ value fault => "error parsing " ++ value.quoted ++ "; " ++ fault.message
  | colour fault => fault.message

end MarkupError

/-- A part of marked-up text: plain text, or a tag and its position. -/
inductive Piece
  | plain (t : Text)
  | tag (t : Tag) (position : Nat)

/-- The code point may start a tag. -/
def startsTag (c : CodePoint) : Bool := c.isAsciiLower || c = '#' || c = '/' || c = '@'

/-- What is between the brackets of the tag that starts here, and what follows it. -/
def bracketed? (s : Text) : Option (Text × Text) :=
  match after? "[" s with
  | none => none
  | some [] => none
  | some (c :: rest) =>
    if startsTag c then
      let isInside (c : CodePoint) : Bool := c ≠ ']' && c ≠ '['
      let inside := rest.takeWhile isInside
      match after? "]" (rest.drop inside.length) with
      | some after => some (c :: inside, after)
      | none => none
    else none

def Tag.ofContent (content : Text) : Tag :=
  let isNamePart (c : CodePoint) : Bool := c ≠ '='
  match content.dropWhile isNamePart with
  | [] => ⟨content, none⟩
  | _ :: value => ⟨content.takeWhile isNamePart, some value⟩

/-- Plain text with the bracket of what might have been a tag bare again. -/
def bareBrackets : Text → Text
  | [] => []
  | [c] => [c]
  | c :: d :: s =>
    if c = '\\' ∧ d = '[' then d :: bareBrackets s else c :: bareBrackets (d :: s)

/-- A plain part, if it is one. -/
def plainPiece (t : Text) : List Piece := if t = [] then [] else [.plain (bareBrackets t)]

/-- The parts of a text from a position on; `plain` is the plain text in front of it, backwards. -/
def piecesFrom (plain : Text) (position : Nat) (s : Text) : List Piece :=
  match s with
  | [] => plainPiece plain.reverse
  | c :: rest =>
    let slashes := ((c :: rest).takeWhile fun (c : CodePoint) => c = '\\').length
    match bracketed? ((c :: rest).drop slashes) with
    | none => piecesFrom (c :: plain) (position + 1) rest
    | some (content, after) =>
      if after.length < rest.length + 1 then
        let literal : Text := List.replicate (slashes / 2) '\\'
        let length := slashes + content.length + 2
        let marked : List Piece :=
          if slashes % 2 = 1 then [.plain ("[" ++ content ++ "]")]
          else [.tag (.ofContent content) (position + slashes)]
        plainPiece plain.reverse ++ plainPiece literal ++ marked ++
          piecesFrom [] (position + length) after
      else []
termination_by s.length

/-- The last one of the open tags that has a name, and the other tags. -/
def closeLast? (name : Text) : List Tag → Option (Tag × List Tag)
  | [] => none
  | t :: rest =>
    if t.name = name then some (t, rest)
    else (closeLast? name rest).map fun (closed, others) => (closed, t :: others)

/-- The arguments in the value of a handler: what its parentheses hold behind its name, with them,
or the whole value. -/
def handlerArguments (value : Text) : Text :=
  let isNamePart (c : CodePoint) : Bool := c.isWord || c = '.'
  let rest : Text := value.dropWhile isNamePart
  if rest = [] then "()"
  else if rest.startsWith "(" && rest.endsWith ")" && !rest.contains '\n' then rest
  else value

/-- Reads the arguments of a handler that is closed. -/
def checkHandler (tag : Tag) : Except MarkupError Unit :=
  match tag.value with
  | none | some [] => .ok ()
  | some value =>
    if tag.name.startsWith "@" then
      let read := handlerArguments value.strip
      (checkArguments read).mapError (.arguments read value)
    else .ok ()

/-- Reads the style of a tag with a value. -/
def checkStyle (tag : Tag) : Except MarkupError Unit :=
  match tag.value with
  | none => .ok ()
  | some value =>
    if tag.name.startsWith "@" then .ok ()
    else ((Style.named (tag.name ++ " " ++ value)).mapError .colour).map fun _ => ()

/-- The plain text of parts and the tags that were opened, where the tags in `opened` are open, the
last one first. -/
def plainOf (opened : List Tag) : List Piece → Except MarkupError (Text × List Tag)
  | [] => .ok ([], [])
  | .plain t :: rest =>
    (plainOf opened rest).map fun (text, tags) => (withEmoji t ++ text, tags)
  | .tag tag position :: rest =>
    match after? "/" tag.name with
    | none => do
      let tag : Tag := { tag with name := ← (normalStyle tag.name).mapError .colour }
      let (text, tags) ← plainOf (tag :: opened) rest
      return (text, tag :: tags)
    | some name =>
      if name.strip = [] then
        match opened with
        | [] => .error (.nothingOpen position)
        | closed :: opened => do
          checkHandler closed
          plainOf opened rest
      else do
        match closeLast? (← (normalStyle name.strip).mapError .colour) opened with
        | none => throw (.unmatched tag position)
        | some (closed, opened) =>
          checkHandler closed
          plainOf opened rest

/-- Bell, backspace, vertical tab, form feed and carriage return, which are never shown. -/
def isDropped (c : CodePoint) : Bool :=
  c.val = 7 || c.val = 8 || c.val = 11 || c.val = 12 || c.val = 13

/-- The text that marked-up text shows. -/
def shown (markup : Text) : Except MarkupError Text :=
  if markup.contains '[' then do
    let (text, tags) ← plainOf [] (piecesFrom [] 0 markup)
    tags.forM checkStyle
    return text.filter fun c => !isDropped c
  else .ok ((withEmoji markup).filter fun c => !isDropped c)

end SitePreview.Console
