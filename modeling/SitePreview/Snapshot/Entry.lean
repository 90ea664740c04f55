import SitePreview.FileSet
import SitePreview.Text.Blank
import SitePreview.Text.Quoted
import SitePreview.Text.Utf8

/-! The rules for the files of a snapshot: a path is neither blank nor holds NUL, and path and
content can be written in UTF-8. -/

namespace SitePreview

inductive EntryPart
  | path
  | content
deriving DecidableEq

inductive EntryError
  | blankPath
  | nulInPath (path : Text)
  | notUtf8 (part : EntryPart) (path : Text)
deriving DecidableEq

namespace EntryError

def message : EntryError → Text
  | blankPath => "file paths must be non-empty"
  | nulInPath path => "file path contains a NUL byte: " ++ path.quoted
  | notUtf8 part path =>
    let name : Text := match part with
      | .path => "path"
      | .content => "content"
    "file " ++ name ++ " of " ++ path.quoted ++ " is not valid UTF-8 text: surrogates not allowed"

end EntryError

/-- Why a path, or a path with its content, is refused, if it is. -/
def entryError? (path : Text) (content : Option Text) : Option EntryError :=
  if path.isBlank then some .blankPath
  else if path.contains '\x00' then some (.nulInPath path)
  else if !path.isUtf8 then some (.notUtf8 .path path)
  else
    match content with
    | some c => if !c.isUtf8 then some (.notUtf8 .content path) else none
    | none => none

/-- Why the first bad file is refused, if there is one. -/
def FileSet.error? (files : FileSet) : Option EntryError :=
  files.entries.findSome? fun e => entryError? e.1 (some e.2)

end SitePreview
