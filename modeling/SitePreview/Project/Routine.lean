import SitePreview.Analysis.Summary
import SitePreview.Cache
import SitePreview.Database.Store

/-! Routines: what an actor does to answer one message. A routine reads and writes what its actor
remembers and the cache at once, and stops at every store call until the call is answered. Routines
are run to their end one after another, or turn by turn beside those of other actors. -/

namespace SitePreview

/-- A value of the cache: the files of a project, or their summary. -/
inductive Cached
  | files (files : FileSet)
  | summary (summary : Summary)
deriving DecidableEq

/-- What a name is: a text, another value that the store keeps as a text, or one that it cannot
keep. -/
inductive NameKind
  | text
  | scalar
  | compound
deriving DecidableEq

/-- What an actor remembers of its project. It asks the store for the record once at most. Of a name
that is no text the record has the text that the store keeps. -/
structure Memory where
  record : Option ProjectRecord := none
  nameKind : NameKind := .text
  loaded : Bool := false
deriving DecidableEq

/-- The hours: the time of day, and a steady clock. -/
structure Clock where
  now : Timestamp
  steady : Seconds := ⟨0⟩
deriving DecidableEq

/-- What the actors share: the database and its faults, the cache if there is one, and the clock. -/
structure Backend where
  database : Database := {}
  faults : Faults := Faults.none
  cache : Option (Cache Cached) := none
  clock : Clock

namespace Backend

/-- The answer to a store call, which may be kept from the database by a fault. -/
def perform (b : Backend) (call : StoreCall) : Except StoreError call.Reply × Backend :=
  match b.faults call.method with
  | some kind => (.error kind.error, b)
  | none =>
    let (reply, db) := b.database.perform b.clock.now call
    (reply, { b with database := db })

end Backend

/-- The records that are checked when they are made. -/
inductive RecordKind
  | version
  | project
  | status
deriving DecidableEq

inductive ProjectError
  | emptyId
  | notFound (project : Text)
  | alreadyThere (project : Text)
  | closed (project : Text)
  | snapshot (is : List Issue)
  | record (kind : RecordKind) (is : List Issue)
  | store (e : StoreError)
  | notUtf8 (e : Text.EncodeError)
  | noRoom
  | wrongKind
  | titleNotText
deriving DecidableEq

namespace ProjectError

/-- The text about an error, which is empty for lists of issues and for values of a wrong kind. -/
def message : ProjectError → Text
  | emptyId => "project_id must be non-empty"
  | notFound p => "project " ++ p ++ " does not exist"
  | alreadyThere p => "project " ++ p ++ " already exists"
  | closed p => "actor for project " ++ p ++ " is closed"
  | snapshot _ | record _ _ | wrongKind | titleNotText => []
  | store (.unavailable m) | store (.system m) | store (.crash m) => m
  | store (.notUtf8 e) => e.message
  | notUtf8 e => e.message
  | noRoom => Cache.noRoomMessage

end ProjectError

/-- A routine that ends with a value or an error. -/
inductive Routine (α : Type)
  | done (a : α)
  | fail (e : ProjectError)
  | call (c : StoreCall) (next : Except StoreError c.Reply → Routine α)
  | look (next : Memory → Option (Cache Cached) → Clock → Routine α)
  | remember (m : Memory) (next : Routine α)
  | recache (c : Option (Cache Cached)) (next : Routine α)

namespace Routine

variable {α β : Type}

def bind (r : Routine α) (f : α → Routine β) : Routine β :=
  match r with
  | done a => f a
  | fail e => fail e
  | call c next => call c fun reply => (next reply).bind f
  | look next => look fun m c t => (next m c t).bind f
  | remember m next => remember m (next.bind f)
  | recache c next => recache c (next.bind f)

instance : Monad Routine where
  pure := done
  bind := bind

def memory : Routine Memory := look fun m _ _ => done m

def cache : Routine (Option (Cache Cached)) := look fun _ c _ => done c

def clock : Routine Clock := look fun _ _ t => done t

def setMemory (m : Memory) : Routine Unit := remember m (done ())

def setCache (c : Option (Cache Cached)) : Routine Unit := recache c (done ())

def ask (c : StoreCall) : Routine (Except StoreError c.Reply) := call c done

/-- The value of a checked record, or its issues as an error. -/
def checked (kind : RecordKind) : Checked α → Routine α
  | .ok a => done a
  | .bad is => fail (.record kind is)

/-- A value, or the surrogates that keep it from being written. -/
def written : Except Text.EncodeError α → Routine α
  | .ok a => done a
  | .error e => fail (.notUtf8 e)

/-- A store call whose answer is taken as given when the store is out of reach. -/
def askOr (c : StoreCall) (whenOut : c.Reply) : Routine c.Reply :=
  call c fun
    | .ok reply => done reply
    | .error e => if e.isOutage then done whenOut else fail (.store e)

/-- The end of a routine, and what its actor remembers and the shared state then. -/
def run (m : Memory) (b : Backend) : Routine α → Except ProjectError α × Memory × Backend
  | done a => (.ok a, m, b)
  | fail e => (.error e, m, b)
  | call c next =>
    let (reply, b) := b.perform c
    (next reply).run m b
  | look next => (next m b.cache b.clock).run m b
  | remember m next => next.run m b
  | recache c next => next.run m { b with cache := c }

/-- The routine up to its next store call or its end. -/
def settle (m : Memory) (b : Backend) : Routine α → Routine α × Memory × Backend
  | done a => (done a, m, b)
  | fail e => (fail e, m, b)
  | call c next => (call c next, m, b)
  | look next => (next m b.cache b.clock).settle m b
  | remember m next => next.settle m b
  | recache c next => next.settle m { b with cache := c }

/-- The store call that a settled routine waits for. -/
def pending? : Routine α → Option StoreCall
  | call c _ => some c
  | _ => none

end Routine

end SitePreview
