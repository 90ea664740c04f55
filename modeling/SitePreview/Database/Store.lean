import SitePreview.Project.Record
import SitePreview.Text.Quoted
import SitePreview.Trail.VersionRecord

/-! The store: a database with a table of versions and one of projects, the calls it answers, and
how calls fail. Texts that UTF-8 cannot write are refused by the database and not by its tables. -/

namespace SitePreview

inductive StorePart
  | versions
  | projects
deriving DecidableEq

inductive StoreMethod
  | appendVersion
  | listVersions
  | eraseVersions
  | loadProject
  | saveProject
  | eraseProject
deriving DecidableEq

/-- The side of the store that answers a kind of call. -/
def StoreMethod.part : StoreMethod → StorePart
  | appendVersion | listVersions | eraseVersions => .versions
  | loadProject | saveProject | eraseProject => .projects

inductive StoreCall
  | appendVersion (record : VersionRecord)
  | listVersions (project : Text) (limit : Int)
  | eraseVersions (project : Text)
  | loadProject (project : Text)
  | saveProject (record : ProjectRecord)
  | eraseProject (project : Text)
deriving DecidableEq

namespace StoreCall

def method : StoreCall → StoreMethod
  | appendVersion _ => .appendVersion
  | listVersions _ _ => .listVersions
  | eraseVersions _ => .eraseVersions
  | loadProject _ => .loadProject
  | saveProject _ => .saveProject
  | eraseProject _ => .eraseProject

/-- What a call is answered with: the record that was added, the records of a page, how many there
were, the project if there is one, nothing, or whether there was a project. -/
def Reply : StoreCall → Type
  | appendVersion _ => VersionRecord
  | listVersions _ _ => List VersionRecord
  | eraseVersions _ => Nat
  | loadProject _ => Option ProjectRecord
  | saveProject _ => Unit
  | eraseProject _ => Bool

/-- The text about a call of a store that cannot be reached. -/
def unavailableMessage : StoreCall → Text
  | appendVersion r => "version append failed for " ++ r.projectId
  | listVersions p _ => "version listing failed for " ++ p
  | eraseVersions p => "version purge failed for " ++ p
  | loadProject p => "snapshot load failed for " ++ p
  | saveProject r => "snapshot save failed for " ++ r.projectId
  | eraseProject p => "snapshot delete failed for " ++ p

/-- The texts that are handed to the database as they are, in the order in which it takes them. -/
def plainTexts : StoreCall → List Text
  | appendVersion r => [r.projectId, r.actorId, r.filesHash] ++ r.message.toList
  | listVersions p _ => [p]
  | eraseVersions p => [p]
  | loadProject p => [p]
  | saveProject r => [r.projectId, r.ownerId, r.name] ++ r.template.toList ++ [r.filesHash]
  | eraseProject p => [p]

end StoreCall

/-- The ways in which a store call can go wrong from outside. -/
inductive FaultKind
  | unavailable
  | system
  | crash
deriving DecidableEq

inductive StoreError
  | unavailable (message : Text)
  | system (message : Text)
  | crash (message : Text)
  | notUtf8 (e : Text.EncodeError)
deriving DecidableEq

namespace StoreError

/-- The store is out of reach for a while, which the callers bear. -/
def isOutage : StoreError → Bool
  | unavailable _ | system _ => true
  | crash _ | notUtf8 _ => false

end StoreError

def faultMessage : Text := "down"

def FaultKind.error : FaultKind → StoreError
  | unavailable => .unavailable faultMessage
  | system => .system faultMessage
  | crash => .crash faultMessage

/-- Which kinds of calls fail at present, and how. -/
abbrev Faults := StoreMethod → Option FaultKind

namespace Faults

def none : Faults := fun _ => .none

/-- The faults of one side of the store replaced: of its calls the listed ones fail. -/
def replace (f : Faults) (part : StorePart) (kind : Option FaultKind)
    (methods : List StoreMethod) : Faults :=
  fun m => if m.part = part then if methods.contains m then kind else .none else f m

end Faults

/-- A database. Without tables every call fails. -/
structure Database where
  versions : VersionTable := {}
  projects : ProjectTable := {}
  hasTables : Bool := true
deriving DecidableEq

namespace Database

/-- The database without its tables. -/
def dropTables (_ : Database) : Database := { hasTables := false }

/-- The database with its tables, which are made if there are none. -/
def createTables (db : Database) : Database := if db.hasTables then db else {}

/-- What a call that works is answered with, and the database afterwards. -/
def apply (db : Database) (now : Timestamp) : (call : StoreCall) → call.Reply × Database
  | .appendVersion r =>
    ({ r with id := some db.versions.nextId }, { db with versions := db.versions.append r })
  | .listVersions p limit => (db.versions.recent p limit, db)
  | .eraseVersions p => (db.versions.countOf p, { db with versions := db.versions.erase p })
  | .loadProject p => (db.projects.get? p, db)
  | .saveProject r => ((), { db with projects := db.projects.save now r })
  | .eraseProject p => ((db.projects.get? p).isSome, { db with projects := db.projects.erase p })

/-- The first text of a call that UTF-8 cannot write. -/
def encodeError? (call : StoreCall) : Option Text.EncodeError :=
  call.plainTexts.findSome? (Text.encodeErrorFrom? 0)

/-- The answer to a call, and the database afterwards. A call that fails changes nothing. -/
def perform (db : Database) (now : Timestamp) (call : StoreCall) :
    Except StoreError call.Reply × Database :=
  if !db.hasTables then (.error (.unavailable call.unavailableMessage), db)
  else
    match encodeError? call with
    | some e => (.error (.notUtf8 e), db)
    | none =>
      let (reply, db) := db.apply now call
      (.ok reply, db)

end Database

end SitePreview
