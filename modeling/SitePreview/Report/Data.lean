import SitePreview.Analysis.Summary
import SitePreview.Json.Basic
import SitePreview.Trail.History

/-! Reports for programs: summaries, changes, outcomes and pages of history as JSON values. -/

namespace SitePreview

def Summary.json (s : Summary) : Json :=
  .object [
    ("file_count", .int s.fileCount),
    ("file_paths", .ofTexts s.filePaths),
    ("components", .ofTexts s.components),
    ("routes", .ofTexts s.routes),
    ("has_css", .bool s.hasCss),
    ("has_tailwind", .bool s.hasTailwind),
    ("total_size", .int s.totalSize)]

def ChangeSet.json (c : ChangeSet) : Json :=
  .object [
    ("changed", .ofTexts c.changed),
    ("removed", .ofTexts c.removed),
    ("added", .ofTexts c.added),
    ("modified", .ofTexts c.modified)]

def SyncResult.members (r : SyncResult) : List (Text × Json) :=
  [("hash", .string r.hash),
    ("changed_paths", .ofTexts r.changedPaths),
    ("removed_paths", .ofTexts r.removedPaths),
    ("recorded", .bool r.recorded)]

def VersionRecord.json (r : VersionRecord) : Json :=
  .object [
    ("id", (r.id.map Json.int).getD .null),
    ("project_id", .string r.projectId),
    ("actor_id", .string r.actorId),
    ("files_hash", .string r.filesHash),
    ("changed_files", .ofTexts r.changedFiles),
    ("removed_files", .ofTexts r.removedFiles),
    ("message", .ofText? r.message),
    ("created_at", .string r.createdAt.isoZulu)]

def History.json (h : History) : Json :=
  .object [
    ("versions", .array (h.versions.map VersionRecord.json)),
    ("available", .bool h.available)]

/-- The texts of files under their paths. -/
def FileSet.json (files : FileSet) : Json :=
  .object (files.entries.map fun (p, c) => (p, .string c))

end SitePreview
