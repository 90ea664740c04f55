import SitePreview.Text.CodePoint
import SitePreview.Trail.SyncResult
import SitePreview.Validation.Given
import SitePreview.Validation.Time

/-! Version records: what one accepted replacement of a project's files changed, and who asked for
it. They are kept in a table. -/

namespace SitePreview

/-- A record of one replacement of the files of a project. -/
structure VersionRecord where
  id : Option Int
  projectId : Text
  actorId : Text
  filesHash : Text
  changedFiles : List Text
  removedFiles : List Text
  message : Option Text
  createdAt : Timestamp
deriving DecidableEq

namespace VersionRecord

/-- The record that the members of an object make. -/
def check (now : Timestamp) (members : List (Text × Json)) : Checked VersionRecord :=
  let id? : Json → Checked (Option Int)
    | .null => .ok none
    | v => (Checked.integer v).map some
  VersionRecord.mk <$> Checked.member members "id" none id?
    <*> Checked.required members "project_id" Checked.filledText
    <*> Checked.required members "actor_id" Checked.filledText
    <*> Checked.required members "files_hash" Checked.filledText
    <*> Checked.member members "changed_files" [] Checked.textList
    <*> Checked.member members "removed_files" [] Checked.textList
    <*> Checked.member members "message" none Checked.text?
    <*> Checked.member members "created_at" now Checked.timestamp

/-- The record of an outcome. Project and actor have to be filled texts, and the message a text if
there is one. -/
def ofResult (now : Timestamp) (project : Text) (actor : Given) (result : SyncResult)
    (message : Given) : Checked VersionRecord :=
  let record (project actor : Text) (message : Option Text) : VersionRecord :=
    { id := none
      projectId := project
      actorId := actor
      filesHash := result.hash
      changedFiles := result.changedPaths
      removedFiles := result.removedPaths
      message := message
      createdAt := now }
  record <$> (Checked.filledText (.string project)).inside (.name "project_id")
    <*> (Checked.filledGiven actor).inside (.name "actor_id")
    <*> (Checked.given? message).inside (.name "message")

end VersionRecord

/-! ### The table

A new row gets the number behind the largest one present, so numbers of the newest rows are given
again once these are deleted. -/

/-- Version records by row number. -/
structure VersionTable where
  rows : List (Nat × VersionRecord) := []
deriving DecidableEq

namespace VersionTable

def nextId (t : VersionTable) : Nat := (t.rows.map Prod.fst).foldr max 0 + 1

/-- A record as a row holds it: lists are kept with their texts escaped, and a time is kept as the
clock shows it. -/
def stored (id : Nat) (r : VersionRecord) : VersionRecord :=
  { r with
    id := some id
    changedFiles := r.changedFiles.map Text.joinSurrogates
    removedFiles := r.removedFiles.map Text.joinSurrogates
    createdAt := r.createdAt.asUtc }

def append (t : VersionTable) (r : VersionRecord) : VersionTable :=
  { rows := t.rows ++ [(t.nextId, stored t.nextId r)] }

/-- The rows of a project, the largest number first. -/
def newestFirst (t : VersionTable) (project : Text) : List (Nat × VersionRecord) :=
  (t.rows.filter fun r => r.2.projectId = project).mergeSort fun a b => decide (b.1 ≤ a.1)

/-- The newest records of a project, as many as the limit says; a negative limit means all. -/
def recent (t : VersionTable) (project : Text) (limit : Int) : List VersionRecord :=
  let rows := t.newestFirst project
  ((if limit < 0 then rows else rows.take limit.toNat).map Prod.snd)

def erase (t : VersionTable) (project : Text) : VersionTable :=
  { rows := t.rows.filter fun r => r.2.projectId ≠ project }

def countOf (t : VersionTable) (project : Text) : Nat :=
  (t.rows.filter fun r => r.2.projectId = project).length

end VersionTable

end SitePreview
