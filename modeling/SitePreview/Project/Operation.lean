import SitePreview.Document.Render
import SitePreview.Project.Edit
import SitePreview.Project.Routine
import SitePreview.Project.Template
import SitePreview.Trail.History

/-! Operations on a project. Creating a project and replacing its files write one version record
each; single edits are not recorded. When the store is out of reach, an operation goes on with what
its actor remembers, and only the outcome of a replacement, pages of history and the answer to a
deletion show it. -/

namespace SitePreview

/-- What the projects of one registry have in common: which sides of the store there are, how long
pages of history may be, and the options of previews. -/
structure ProjectSetup where
  keepsVersions : Bool := true
  keepsProjects : Bool := true
  limits : HistoryLimits := {}
  options : PreviewOptions := {}
deriving DecidableEq

inductive Operation
  | create (owner name template : Given) (files : Option FileSet)
  | sync (files : FileSet) (actor message name : Given)
  | write (edits : List FileEdit)
  | content (path : Text)
  | listFiles
  | snapshot
  | status
  | render (mode : Option RenderMode)
  | summary
  | history (limit : Option PageLength)
  | delete
deriving DecidableEq

inductive Answer
  | status (s : ProjectStatus)
  | synced (r : SyncResult)
  | edited (rs : List EditResult)
  | content (c : Option Text)
  | listing (sizes : List (Text × Nat))
  | files (files : FileSet)
  | document (d : Text)
  | summary (s : Summary)
  | history (h : History)
  | deleted (existed : Bool)
deriving DecidableEq

namespace Ledger

open Routine

/-- Writes one version record of the step from `old` to `new`. The outcome tells whether it was
written. -/
def append (s : ProjectSetup) (project : Text) (actor : Given) (old : Option FileSet)
    (new : FileSet) (message : Given) : Routine SyncResult := do
  let result ← written (SyncResult.between old new)
  if !s.keepsVersions then return { result with recorded := false }
  let record ← checked .version
    (VersionRecord.ofResult (← clock).now project actor result message)
  match ← ask (.appendVersion record) with
  | .ok _ => return result
  | .error e =>
    if e.isOutage then return { result with recorded := false }
    fail (.store e)

/-- A page of the history of a project. -/
def page (s : ProjectSetup) (project : Text) (limit : Option PageLength) : Routine History := do
  if !s.keepsVersions then return .unavailable
  let length := s.limits.effective limit
  match ← ask (.listVersions project length) with
  | .ok versions =>
    if limit.all s.limits.canCut then return ⟨versions.take length.toNat, true⟩
    else fail .wrongKind
  | .error e => if e.isOutage then return .unavailable else fail (.store e)

/-- Removes the records of a project and tells how many there were. -/
def purge (s : ProjectSetup) (project : Text) : Routine Nat :=
  if !s.keepsVersions then return 0 else askOr (.eraseVersions project) (0 : Nat)

end Ledger

namespace Operation

open Routine

/-- The kind under which files are cached. -/
def filesKind : Text := "snapshot"

def summaryKind : Text := "summary"

/-- Asks the store for the record, unless this was done before. -/
def ensureLoaded (s : ProjectSetup) (project : Text) : Routine Unit := do
  let m ← memory
  if m.loaded then return
  setMemory { m with loaded := true }
  if !s.keepsProjects then return
  match ← ask (.loadProject project) with
  | .ok record => setMemory { m with record := record, loaded := true }
  | .error e => if e.isOutage then return else fail (.store e)

def persist (s : ProjectSetup) (r : ProjectRecord) : Routine Unit :=
  if !s.keepsProjects then return else askOr (.saveProject r) ()

def store (project kind : Text) (value : Cached) : Routine Unit := do
  match ← cache with
  | none => return
  | some c =>
    match c.put (← clock).steady ⟨kind, project⟩ value with
    | none => fail .noRoom
    | some c => setCache (some c)

/-- Drops what is cached of a project. -/
def invalidate (project : Text) : Routine Unit := do
  match ← cache with
  | none => return
  | some c => setCache (some (c.invalidate project))

/-- Puts files and their summary into the cache, and gives the summary. -/
def refresh (project : Text) (files : FileSet) : Routine Summary := do
  invalidate project
  store project filesKind (.files files)
  store project summaryKind (.summary files.summary)
  return files.summary

/-- The record, which has to be there. -/
def require (project : Text) : Routine ProjectRecord := do
  match (← memory).record with
  | some r => return r
  | none => fail (.notFound project)

/-- The record of the project, asked for if need be. -/
def current (s : ProjectSetup) (project : Text) : Routine ProjectRecord := do
  ensureLoaded s project
  require project

/-- The actor remembers the record, and the store and the cache get it. The store cannot take a name
that it cannot keep. -/
def accept (s : ProjectSetup) (project : Text) (r : ProjectRecord) (kind : NameKind) :
    Routine Unit := do
  setMemory { (← memory) with record := some r, nameKind := kind }
  if kind ≠ .compound then persist s r
  discard (refresh project r.files)

def createFrom (s : ProjectSetup) (project : Text) (owner name template : Given)
    (files : FileSet) (message : Text) : Routine Answer := do
  ensureLoaded s project
  if (← memory).record.isSome then fail (.alreadyThere project)
  else
    let result ← Ledger.append s project owner none files (.text message)
    let record ← checked .project
      (ProjectRecord.new (← clock).now project owner name template files result.hash)
    accept s project record .text
    return .status record.status

/-- The name that a project gets with its kind, if one is given. What the store cannot keep leaves
the known name in its place. -/
def newName? (known : Text) (name : Given) : Option (Text × NameKind) :=
  if name.isNothing then none
  else
    match name with
    | .nothing => none
    | .text t => some (t, .text)
    | .other _ (some t) => some (t, .scalar)
    | .other _ none => some (known, .compound)

/-- Replaces the files of the project, which is created if need be. -/
def syncTo (s : ProjectSetup) (project : Text) (files : FileSet) (actor message name : Given) :
    Routine Answer := do
  ensureLoaded s project
  let m ← memory
  let result ← Ledger.append s project actor (m.record.map ProjectRecord.files) files message
  let now := (← clock).now
  match m.record with
  | none =>
    let name := if name.isNothing then .text project else name
    let record ← checked .project
      (ProjectRecord.new now project actor name .nothing files result.hash)
    accept s project record .text
  | some r =>
    let (name, kind) := (newName? r.name name).getD (r.name, m.nameKind)
    accept s project
      { r with name := name, files := files, filesHash := result.hash, updatedAt := now } kind
  return .synced result

def applyEdits (s : ProjectSetup) (project : Text) (edits : List FileEdit) : Routine Answer := do
  let r ← current s project
  let (results, changed) := FileEdit.applyAll r.files edits
  match changed with
  | none => return .edited results
  | some files =>
    let hash ← written files.hash
    let r := { r with files := files, filesHash := hash, updatedAt := (← clock).now }
    accept s project r (← memory).nameKind
    return .edited results

/-- The sizes of the files in bytes, in the order of their paths. -/
def sizes (files : FileSet) : Except Text.EncodeError (List (Text × Nat)) :=
  files.sortedPaths.mapM fun p => (files.content p).toUtf8.map fun bs => (p, bs.length)

/-- The summary of the project, from the cache if it is there. -/
def summarize (s : ProjectSetup) (project : Text) : Routine Answer := do
  let found ← match ← cache with
    | none => pure none
    | some c => do
      let (found, c) := c.get (← clock).steady ⟨summaryKind, project⟩
      setCache (some c)
      pure found
  match found with
  | some (.summary known) => return .summary known
  | _ => return .summary (← refresh project (← current s project).files)

/-- Deletes the project with its history. -/
def remove (s : ProjectSetup) (project : Text) : Routine Answer := do
  ensureLoaded s project
  let known := (← memory).record.isSome
  let stored ← if s.keepsProjects then askOr (.eraseProject project) false else pure false
  discard (Ledger.purge s project)
  invalidate project
  setMemory { (← memory) with record := none, nameKind := .text }
  return .deleted (stored || known)

/-- The options of previews of a project, which its name is the title of. -/
def previewOptions (s : ProjectSetup) (r : ProjectRecord) : PreviewOptions :=
  { s.options with title := if r.name = [] then s.options.title else r.name }

/-- The view of the project without its files, whose name has to be a text. -/
def statusOf (s : ProjectSetup) (project : Text) : Routine Answer := do
  let r ← current s project
  if (← memory).nameKind = .text then return .status r.status
  else fail (.record .status [⟨[.name "name"], .notText⟩])

/-- The preview document. Documents that are passed on show no title, in all others it has to be a
text. -/
def preview (s : ProjectSetup) (project : Text) (mode : Option RenderMode) : Routine Answer := do
  let r ← current s project
  if (← memory).nameKind = .text ∨ mode.getD r.files.renderMode = .passthrough then
    return .document (Document.render r.files mode (previewOptions s r))
  else fail .titleNotText

/-- The files that a project is created from, its template and the message of its first version. -/
def start (template : Given) (files : Option FileSet) : FileSet × Given × Text :=
  match files with
  | some files => (files, template, "Created")
  | none =>
    let t := Template.resolve template
    (t.files, .text t.name, "Created from template " ++ t.name)

/-- The files that an operation brings in. -/
def newFiles? : Operation → Option FileSet
  | create _ _ template files => some (start template files).1
  | sync files _ _ _ => some files
  | _ => none

/-- A template is asked for by a list or an object, which cannot be looked up. -/
def asksByCompound : Operation → Bool
  | create _ _ (.other false none) _ => true
  | _ => false

/-- The template can be looked up, and the files that an operation brings in form a snapshot. -/
def check (op : Operation) : Except ProjectError Unit :=
  if op.asksByCompound then .error .wrongKind
  else
    match op.newFiles? with
    | none => .ok ()
    | some files => (Snapshot.checkFiles files).mapError ProjectError.snapshot |>.map fun _ => ()

/-- What an actor does for an operation. -/
def routine (s : ProjectSetup) (project : Text) : Operation → Routine Answer
  | create owner name template files =>
    let (files, template, message) := start template files
    createFrom s project owner name template files message
  | sync files actor message name => syncTo s project files actor message name
  | write edits => applyEdits s project edits
  | content path => do return .content ((← current s project).files.get? path)
  | listFiles => do return .listing (← written (sizes (← current s project).files))
  | snapshot => do return .files (← current s project).files
  | status => statusOf s project
  | render mode => preview s project mode
  | summary => summarize s project
  | history limit => do return .history (← Ledger.page s project limit)
  | delete => remove s project

end Operation

end SitePreview
