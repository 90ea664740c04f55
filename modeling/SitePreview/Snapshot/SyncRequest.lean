import SitePreview.Snapshot.Input
import SitePreview.Validation.Time

/-! Sync requests: payloads that ask for a project's files to be replaced. A payload is accepted
only if its files form a snapshot. -/

namespace SitePreview

structure SyncRequest where
  projectId : Text
  actorId : Text
  files : FileSet
  name : Option Text
  message : Option Text
  receivedAt : Timestamp

inductive PayloadError
  | notObject (typeName : Text)
  | request (is : List Issue)
  | snapshot (is : List Issue)

namespace PayloadError

def notObjectMessage (typeName : Text) : Text :=
  "sync payload must be an object, got " ++ typeName

end PayloadError

namespace SyncRequest

/-- The request that the members of a payload make. The files are given apart, for their keys need
not be texts. -/
def check (now : Timestamp) (members : List (Text × Json)) (files : Option RawMapping) :
    Checked SyncRequest :=
  let checkedFiles := match files with
    | some m => (Checked.fileSet m).inside (.name "files")
    | none => (Checked.fail .missing).inside (.name "files")
  SyncRequest.mk <$> Checked.required members "project_id" Checked.filledText
    <*> Checked.required members "actor_id" Checked.filledText
    <*> checkedFiles
    <*> Checked.member members "name" none Checked.text?
    <*> Checked.member members "message" none Checked.text?
    <*> Checked.member members "received_at" now Checked.timestamp

def ofPayload (now : Timestamp) (payload : Json) (files : Option RawMapping) :
    Except PayloadError SyncRequest :=
  match payload with
  | .object members =>
    match check now members files with
    | .bad is => .error (.request is)
    | .ok request =>
      match Snapshot.checkFiles request.files with
      | .error is => .error (.snapshot is)
      | .ok _ => .ok request
  | v => .error (.notObject v.typeName)

end SyncRequest

end SitePreview
