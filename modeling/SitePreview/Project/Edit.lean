import SitePreview.Snapshot.Entry
import SitePreview.Validation.Field

/-! Edits of single files. A batch of edits is applied one edit after another, and an edit that is
refused changes nothing. -/

namespace SitePreview

inductive FileAction
  | create
  | update
  | delete
  | read
deriving DecidableEq

namespace FileAction

def choices : List (Text × FileAction) :=
  [("create", create), ("update", update), ("delete", delete), ("read", read)]

end FileAction

structure FileEdit where
  path : Text
  action : FileAction
  content : Option Text
deriving DecidableEq

inductive EditError
  | entry (e : EntryError)
  | contentMissing
  | fileMissing
deriving DecidableEq

def EditError.message : EditError → Text
  | entry e => e.message
  | contentMissing => "content is required"
  | fileMissing => "file not found"

/-- What came of an edit; a file that was read comes with its content. -/
structure EditResult where
  path : Text
  error : Option EditError := none
  content : Option Text := none
deriving DecidableEq

namespace FileEdit

/-- The edit that the members of an object make. -/
def check (members : List (Text × Json)) : Checked FileEdit :=
  FileEdit.mk <$> Checked.required members "path" Checked.filledText
    <*> Checked.required members "action" (Checked.oneOf FileAction.choices)
    <*> Checked.member members "content" none Checked.text?

/-- The result of an edit, and the files if it changed them. -/
def apply (files : FileSet) (e : FileEdit) : EditResult × Option FileSet :=
  let refused (error : EditError) : EditResult × Option FileSet :=
    ({ path := e.path, error := some error }, none)
  match entryError? e.path e.content with
  | some error => refused (.entry error)
  | none =>
    match e.action with
    | .create | .update =>
      match e.content with
      | none => refused .contentMissing
      | some c => ({ path := e.path }, some (files.insert e.path c))
    | .delete =>
      match files.get? e.path with
      | none => refused .fileMissing
      | some _ => ({ path := e.path }, some (files.erase e.path))
    | .read =>
      match files.get? e.path with
      | none => refused .fileMissing
      | some c => ({ path := e.path, content := some c }, none)

/-- The results of edits one after another, and the files if one of the edits changed them. -/
def applyAll (files : FileSet) : List FileEdit → List EditResult × Option FileSet
  | [] => ([], none)
  | e :: es =>
    let (result, changed) := e.apply files
    let (results, later) := applyAll (changed.getD files) es
    (result :: results, later.orElse fun _ => changed)

end FileEdit

end SitePreview
