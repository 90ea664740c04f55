import SitePreview.Text.Blank
import SitePreview.Text.Word

/-! Fenced code blocks and the markers above them. A code block is three backticks, perhaps a
language, the code on the lines below, and the next three backticks. A marker is a line that gives
the path of the file in the block below it; it may stand behind other text in its line, and reaches
to the line's end. -/

namespace SitePreview.Response

open Text CodePoint

/-- The mark that opens and closes a code block. -/
def fenceMark : Text := "\x60\x60\x60"

/-- What stands in front of the next fence mark, and what follows the mark. -/
def untilFence? : Text → Option (Text × Text)
  | [] => none
  | c :: s =>
    match after? fenceMark (c :: s) with
    | some rest => some ([], rest)
    | none => (untilFence? s).map fun (body, rest) => (c :: body, rest)

/-- The body of a code block that stands here, and what follows it. -/
def codeBlock? (s : Text) : Option (Text × Text) := do
  let s ← after? fenceMark s
  untilFence? (← after? "\n" (skipInline (s.dropWhile isWord)))

/-- The line that stands here, if it ends in a line feed, and what follows it. -/
def line? (s : Text) : Option (Text × Text) := do
  let rest ← after? "\n" (s.dropWhile fun c : CodePoint => c ≠ '\n')
  some (s.takeWhile fun c : CodePoint => c ≠ '\n', rest)

/-- What a recogniser yields from left to right, each search going on behind what the last one
covered. -/
def findAll {α : Type} (recognise : Text → Option (α × Text)) (s : Text) : List α :=
  match s with
  | [] => []
  | c :: s =>
    match recognise (c :: s) with
    | none => findAll recognise s
    | some (a, rest) =>
      if rest.length < s.length + 1 then a :: findAll recognise rest else findAll recognise s
termination_by s.length

/-- The text is a path with an extension: at least one code point, a point and word code points. -/
def hasExtension (t : Text) : Bool :=
  let isExtensionPart (c : CodePoint) : Bool := c ≠ '.'
  let extension := takeRightWhile isExtensionPart t
  extension ≠ [] && extension.all isWord && extension.length + 2 ≤ t.length

/-- What follows the word `filename:` behind the given mark. -/
def named? (mark s : Text) : Option Text := do
  after? "filename:" (skipInline (← after? mark s))

/-- The path in a line `// filename: path`. -/
def commentPath? (line : Text) : Option Text := do
  let path ← named? "//" line
  if path = [] then none else some path

/-- The path in a line `<!-- filename: path -->`. -/
def markupPath? (line : Text) : Option Text := do
  let s := dropRightWhile isInlineBlank (← named? "<!--" line)
  if s.endsWith "-->" && 3 < s.length then some (s.take (s.length - 3)) else none

/-- The path in a line `**path**`, perhaps in backticks. -/
def boldPath? (line : Text) : Option Text := do
  let isPathPart (c : CodePoint) : Bool := c ≠ '\x60' && c ≠ '*'
  let s := dropPrefix "\x60" (← after? "**" line)
  let rest ← after? "**" (dropPrefix "\x60" (s.dropWhile isPathPart))
  let path := s.takeWhile isPathPart
  if hasExtension path && skipInline rest = [] then some path else none

/-- The path in the rest of a line up to its end or to a backtick at its end. -/
def pathBeforeTick? (s : Text) : Option Text :=
  let isPathPart (c : CodePoint) : Bool := c ≠ '\x60'
  let run := s.takeWhile isPathPart
  match s.dropWhile isPathPart with
  | [] => some (dropRightWhile isInlineBlank run)
  | _ :: rest => if skipInline rest = [] then some run else none

/-- The path in a line of one to six number signs and the path, perhaps in backticks. A path that is
all extension needs a blank or a number sign in front of it to stand on. -/
def headingPath? (line : Text) : Option Text := do
  let signs := min 6 (line.takeWhile fun c : CodePoint => c = '#').length
  if signs = 0 then none
  let behind := line.drop signs
  let s := skipInline behind
  match after? "\x60" s with
  | some inner => (pathBeforeTick? inner).filter hasExtension
  | none =>
    let path ← pathBeforeTick? s
    if hasExtension path then some path
    else if s.length < behind.length && hasExtension (' ' :: path) then some path
    else if s.length = behind.length && 1 < signs && hasExtension ('#' :: path) then
      some ('#' :: path)
    else none

/-- The path that a marker standing here gives. -/
def markedPath? (line : Text) : Option Text :=
  (commentPath? line).orElse fun _ => (markupPath? line).orElse fun _ =>
    (boldPath? line).orElse fun _ => headingPath? line

/-- A marker and the code block on the line below it: path and code. -/
def announcedFile? (s : Text) : Option ((Text × Text) × Text) := do
  let (line, below) ← line? s
  let path ← markedPath? line
  let (code, rest) ← codeBlock? below
  some ((path.strip, code.strip), rest)

end SitePreview.Response
