import SitePreview.Text.Blank

/-! Editing a source at the starts of its lines. An edit looks at the text from the start of a line
on and says what is kept of a statement that stands there and where scanning goes on. -/

namespace SitePreview.Source

/-- The outcome of looking at the start of a line: the text that is kept, the text behind it that is
still to be scanned, and whether that text counts as the start of a line. -/
structure Edit where
  kept : Text
  rest : Text
  atLineStart : Bool

/-- A statement goes away with its line end. -/
def Edit.remove (rest : Text) : Edit := ⟨[], rest, true⟩

/-- The text before `rest` stays as it is, and scanning goes on within the line. -/
def Edit.pass (s rest : Text) : Edit := ⟨s.take (s.length - rest.length), rest, false⟩

/-- Applies the edit at each start of a line from left to right. What an edit covers is not looked
at again; an edit that does not move forward is not made. -/
def editFrom (edit : Text → Option Edit) (atLineStart : Bool) (s : Text) : Text :=
  match s with
  | [] => []
  | c :: s =>
    match if atLineStart then edit (c :: s) else none with
    | none => c :: editFrom edit (c = '\n') s
    | some e =>
      if e.rest.length < s.length + 1 then e.kept ++ editFrom edit e.atLineStart e.rest
      else c :: editFrom edit (c = '\n') s
termination_by s.length

/-- Applies the edit at each start of a line of the source. -/
def editLines (edit : Text → Option Edit) (source : Text) : Text := editFrom edit true source

/-- Removes each statement that starts a line and is recognised by `statement`, which gives the text
behind it. -/
def removeStatements (statement : Text → Option Text) : Text → Text :=
  editLines fun s => (statement s).map .remove

/-- Removes the words recognised by `words` behind the indentation of a line, which stays. -/
def removeLeadingWords (words : Text → Option Text) : Text → Text :=
  editLines fun s => (words (Text.skipInline s)).map fun rest =>
    ⟨s.takeWhile CodePoint.isInlineBlank, rest, false⟩

/-- What `find` yields at each start of a line from left to right, each search going on within the
line behind the text that the last find covered. -/
def findFrom {α : Type} (find : Text → Option (α × Text)) (atLineStart : Bool) (s : Text) :
    List α :=
  match s with
  | [] => []
  | c :: s =>
    match if atLineStart then find (c :: s) else none with
    | none => findFrom find (c = '\n') s
    | some (a, rest) =>
      if rest.length < s.length + 1 then a :: findFrom find false rest
      else findFrom find (c = '\n') s
termination_by s.length

end SitePreview.Source
