import SitePreview.Calendar
import SitePreview.Snapshot.Input
import SitePreview.Text.CodePoint
import SitePreview.Validation.Given
import SitePreview.Validation.Time

/-! Project records: a project with its current files and their hash, and the view of it that does
not show the files. They are kept in a table, one row for each project. -/

namespace SitePreview

structure ProjectRecord where
  projectId : Text
  ownerId : Text
  name : Text
  template : Option Text
  files : FileSet
  filesHash : Text
  createdAt : Timestamp
  updatedAt : Timestamp
deriving DecidableEq

structure ProjectStatus where
  projectId : Text
  name : Text
  ownerId : Text
  template : Option Text
  fileCount : Nat
  filesHash : Text
  createdAt : Timestamp
  updatedAt : Timestamp
deriving DecidableEq

namespace ProjectRecord

/-- The record that the members of an object make. The files are given apart, for their keys need
not be texts. -/
def check (now : Timestamp) (members : List (Text × Json)) (files : Option RawMapping) :
    Checked ProjectRecord :=
  let checkedFiles := match files with
    | some m => (Checked.fileSet m).inside (.name "files")
    | none => .ok .empty
  ProjectRecord.mk <$> Checked.required members "project_id" Checked.filledText
    <*> Checked.required members "owner_id" Checked.filledText
    <*> Checked.member members "name" [] Checked.text
    <*> Checked.member members "template" none Checked.text?
    <*> checkedFiles
    <*> Checked.member members "files_hash" [] Checked.text
    <*> Checked.member members "created_at" now Checked.timestamp
    <*> Checked.member members "updated_at" now Checked.timestamp

/-- The record of a new project. Project and owner have to be filled texts, there has to be a name,
and a template is a text. -/
def new (now : Timestamp) (project : Text) (owner name template : Given) (files : FileSet)
    (hash : Text) : Checked ProjectRecord :=
  let record (project owner name : Text) (template : Option Text) : ProjectRecord :=
    { projectId := project
      ownerId := owner
      name := name
      template := template
      files := files
      filesHash := hash
      createdAt := now
      updatedAt := now }
  record <$> (Checked.filledText (.string project)).inside (.name "project_id")
    <*> (Checked.filledGiven owner).inside (.name "owner_id")
    <*> (Checked.given name).inside (.name "name")
    <*> (Checked.given? template).inside (.name "template")

def status (r : ProjectRecord) : ProjectStatus :=
  { projectId := r.projectId
    name := r.name
    ownerId := r.ownerId
    template := r.template
    fileCount := r.files.size
    filesHash := r.filesHash
    createdAt := r.createdAt
    updatedAt := r.updatedAt }

end ProjectRecord

/-! ### The table

Saving a project that has a row keeps the time at which it was created, and every save writes its own
time of the last change. -/

/-- Project records by project. -/
structure ProjectTable where
  rows : List ProjectRecord := []
deriving DecidableEq

namespace ProjectTable

def get? (t : ProjectTable) (project : Text) : Option ProjectRecord :=
  t.rows.find? fun r => r.projectId = project

/-- The files as a row keeps them, with their texts escaped. -/
def storedFiles (files : FileSet) : FileSet :=
  .ofList (files.entries.map fun (p, c) => (Text.joinSurrogates p, Text.joinSurrogates c))

/-- The row of a new project. -/
def newRow (now : Timestamp) (r : ProjectRecord) : ProjectRecord :=
  { r with files := storedFiles r.files, createdAt := r.createdAt.asUtc, updatedAt := now.asUtc }

/-- The row of a project that has one. -/
def updatedRow (now : Timestamp) (row r : ProjectRecord) : ProjectRecord :=
  { r with files := storedFiles r.files, createdAt := row.createdAt, updatedAt := now.asUtc }

/-- The table with a project saved. -/
def save (t : ProjectTable) (now : Timestamp) (r : ProjectRecord) : ProjectTable :=
  match t.get? r.projectId with
  | none => { rows := t.rows ++ [newRow now r] }
  | some _ =>
    { rows := t.rows.map fun row =>
        if row.projectId = r.projectId then updatedRow now row r else row }

def erase (t : ProjectTable) (project : Text) : ProjectTable :=
  { rows := t.rows.filter fun r => r.projectId ≠ project }

end ProjectTable

end SitePreview
