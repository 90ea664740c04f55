import SitePreview.FileSet
import SitePreview.Response.Marker

/-! The files in a response: those in announced code blocks or, if there are none, those whose code
block names its file in a comment of its own. A later block for a path replaces an earlier one. -/

namespace SitePreview.Response

open Text CodePoint

/-- The path that a comment standing here at the start of a line gives, and what follows the line.
The path is on the first line behind the colon that is not blank; nothing but blanks behind the
colon, with a blank among them that is no line feed, give an empty path. -/
def inlineMarker? (s : Text) : Option (Text × Text) := do
  let s ← after? "filename:" (skipBlanks (← after? "//" s))
  match skipBlanks s with
  | [] => if s.all fun c : CodePoint => c = '\n' then none else some ([], [])
  | c :: rest =>
    let isLinePart (c : CodePoint) : Bool := c ≠ '\n'
    some (strip ((c :: rest).takeWhile isLinePart),
      dropPrefix "\n" ((c :: rest).dropWhile isLinePart))

/-- The path given by the first comment of that kind, and the text without it. -/
def takeInlineMarker? (atLineStart : Bool) : Text → Option (Text × Text)
  | [] => none
  | c :: s =>
    match if atLineStart then inlineMarker? (c :: s) else none with
    | some found => some found
    | none => (takeInlineMarker? (c = '\n') s).map fun (path, rest) => (path, c :: rest)

/-- The files in announced code blocks. -/
def announcedFiles (response : Text) : FileSet :=
  .ofList ((findAll announcedFile? response).filter fun (path, code) => path ≠ [] && code ≠ [])

/-- The files in code blocks that name their file themselves. -/
def selfNamedFiles (response : Text) : FileSet :=
  .ofList ((findAll codeBlock? response).filterMap fun body =>
    match takeInlineMarker? true body with
    | some (path, code) => if path = [] then none else some (path, code.strip)
    | none => none)

def files (response : Text) : FileSet :=
  let announced := announcedFiles response
  if announced.size = 0 then selfNamedFiles response else announced

end SitePreview.Response
