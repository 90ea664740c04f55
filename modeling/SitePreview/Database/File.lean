import SitePreview.Database.Store
import SitePreview.Json.Parser
import SitePreview.Json.Printer
import SitePreview.Report.Data

/-! Database files. The first byte of one stands in no text, so the files of a project never include
it; the rows follow as JSON. An empty file is a database without rows. -/

namespace SitePreview

/-- A row of the table of projects. -/
def ProjectRecord.json (r : ProjectRecord) : Json :=
  .object [
    ("project_id", .string r.projectId),
    ("owner_id", .string r.ownerId),
    ("name", .string r.name),
    ("template", .ofText? r.template),
    ("files", r.files.json),
    ("files_hash", .string r.filesHash),
    ("created_at", .string r.createdAt.isoZulu),
    ("updated_at", .string r.updatedAt.isoZulu)]

namespace Database

/-- The byte that a database file starts with. -/
def firstByte : UInt8 := 0xFF

def json (db : Database) : Json :=
  .object [
    ("versions", .array (db.versions.rows.map fun r => r.2.json)),
    ("projects", .array (db.projects.rows.map ProjectRecord.json))]

/-- The file of a database. -/
def toBytes (db : Database) : List UInt8 := firstByte :: (db.json.toText .ascii).utf8Bytes

def valid? {α : Type} : Checked α → Option α
  | .ok a => some a
  | .bad _ => none

/-- The rows of a table, if all of them are ones. -/
def rows? {α : Type} (name : Text) (check : List (Text × Json) → Checked α) (v : Json) :
    Option (List α) := do
  let rows ← (← v.get? name).asArray?
  rows.mapM fun
    | .object members => valid? (check members)
    | _ => none

/-- The database in a file, if it is one. All rows have their times, so none is taken from a
clock. -/
def ofBytes? : List UInt8 → Option Database
  | [] => some {}
  | b :: bs => do
    if b ≠ firstByte then none
    let v ← Json.parse? (← Text.ofUtf8? bs)
    let epoch : Timestamp := { seconds := 0 }
    let versions ← rows? "versions" (VersionRecord.check epoch) v
    let projects ← rows? "projects" (fun ms =>
      ProjectRecord.check epoch ms ((ms.lookup ("files" : Text)).map RawMapping.ofJson)) v
    return {
      versions := { rows := versions.map fun r => ((r.id.getD 0).toNat, r) }
      projects := { rows := projects } }

end Database

end SitePreview
