import SitePreview.Command.Request
import SitePreview.Command.Session
import SitePreview.Database.Engine
import SitePreview.Database.File
import SitePreview.Document.Render
import SitePreview.Json.Printer
import SitePreview.Project.Registry
import SitePreview.Report.Blocks
import SitePreview.Report.Data
import SitePreview.Response.Parser
import SitePreview.Tree.Load

/-! The commands. Settings come first, so a command line with several faults fails for those. Output
meant for other programs goes to the output, all else is a message. -/

namespace SitePreview.Command

open Text Console Session

def putJson (v : Json) : Session Unit := put (v.toText .pretty ++ "\n")

/-- The settings of the environment and of the environment file in the working directory. -/
def settings (env : Environment) : Session Settings := do
  let file := ".env"
  let envFile ← match (← workspace).bytes? file with
    | none => pure []
    | some bytes =>
      match ofUtf8? bytes with
      | none => fail (.unreadable file)
      | some t => pure t
  orFail .settings (Settings.load [] env.bindings envFile)

def load (env : Environment) (s : Settings) (place : List Text) : Session FileSet := do
  let node := ((← workspace).root.get? place).getD .empty
  match Snapshot.checkFiles (node.load s.maxFileBytes) with
  | .ok files => return files
  | .error is =>
    refuse env ("Failed to load project: " ++ Failure.issuesText is)

/-- The place of a directory, `..` taken back as it is written. -/
def directoryOf (path : Text) : Session (List Text) := do
  let w ← workspace
  let place := w.placeOf path
  if w.root.isDirectory place then return place else throw .usage

/-- The place of a directory that the path leads to step by step. -/
def directoryAt (path : Text) : Session (List Text) := do
  let w ← workspace
  let place ← orUsage (w.find? path)
  if w.root.isDirectory place then return place else throw .usage

/-- The bytes of a file that the path leads to. -/
def fileAt (path : Text) : Session (List UInt8) := do
  orUsage ((← workspace).bytes? path)

/-- Renders a directory to the output or into a file. -/
def render (env : Environment) (s : Settings) (directory : Text) (out : Option Text)
    (mode : Option RenderMode) (title : Text) : Session Unit := do
  let files ← load env s (← directoryOf directory)
  let document := Document.render files mode (s.previewOptions title)
  match out with
  | none => put document
  | some out =>
    let path := Path.ofText out
    writeFile path document
    let sizes := " (" ++ ofNat document.length ++ " chars, " ++ ofNat files.size ++ " files)"
    tell env [.text ("[green]Preview written to " ++ path.toText ++ "[/green]" ++ sizes)]

def hash (env : Environment) (s : Settings) (inJson : Bool) (directory : Text) : Session Unit := do
  let files ← load env s (← directoryOf directory)
  let hash ← orFail .unwritable files.hash
  if inJson then putJson (.object [("hash", .string hash), ("file_count", .int files.size)])
  else put (hash ++ "\n")

def diff (env : Environment) (s : Settings) (inJson : Bool) (old new : Text) : Session Unit := do
  let oldPlace ← directoryAt old
  let newPlace ← directoryAt new
  let old ← load env s oldPlace
  let new ← load env s newPlace
  let changes := ChangeSet.between (some old) new
  if inJson then putJson changes.json else tell env changes.report

def summary (env : Environment) (s : Settings) (inJson : Bool) (directory : Text) :
    Session Unit := do
  let summary := (← load env s (← directoryOf directory)).summary
  if inJson then putJson summary.json else tell env summary.report

/-- The path of an extracted file below the directory for them, unless it might lead elsewhere. -/
def safePath? (path : Text) : Option Path :=
  let p := Path.ofText path
  if p.isAbsolute || p.segments.contains ".." then none else some p

/-- Writes an extracted file below a directory, or tells that it is passed over. Only files that are
written count. -/
def writeEntry (env : Environment) (out : Path) (files : FileSet) (count : Nat) (path : Text) :
    Session Nat :=
  match safePath? path with
  | none => do
    tell env [.text ("[yellow]Skipping unsafe path: " ++ path ++ "[/yellow]")]
    return count
  | some p => do
    writeFile { out with segments := out.segments ++ p.segments } (files.content path)
    return count + 1

/-- Writes extracted files below a directory and tells which ones are passed over. The number of
files written is the outcome. -/
def writeExtracted (env : Environment) (out : Path) (files : FileSet) : Session Nat :=
  files.sortedPaths.foldlM (writeEntry env out files) 0

/-- Reports the files in a response and writes them below a directory, if there is one. -/
def extract (env : Environment) (inJson : Bool) (response : Text) (out : Option Text) :
    Session Unit := do
  match ofUtf8? (← fileAt response) with
  | none => fail (.unreadable response)
  | some t =>
    let files := Response.files t.unifyLineEnds
    match out with
    | none => pure ()
    | some out =>
      let path := Path.ofText out
      let count ← writeExtracted env path files
      tell env [.text ("[green]Wrote " ++ ofNat count ++ " file(s) to " ++ path.toText ++
        "[/green]")]
    if inJson then putJson (.object [("files", files.json)])
    else tell env (← orFail .unwritable files.report)

/-- Refuses because the database cannot be reached. -/
def refuseStore {α : Type} (env : Environment) (reason : Text) : Session α :=
  refuse env ("State store unavailable: " ++ reason)

/-- The place of the database file that an engine uses; there is none for a database in memory. -/
def databasePlace (env : Environment) (s : Settings) : Session (Option (List Text)) := do
  let w ← workspace
  match Database.openEngine s.databaseUrl s.databasePoolSize s.databaseMaxOverflow w with
  | .error e => if e.isRefusal then refuseStore env e.message else fail (.engine e)
  | .ok (engine, w) =>
    if engine.limits.isSome then
      orFail (fun e => .engine (.options e)) engine.address.checkServerOptionNames
      refuseStore env "the database server does not answer"
    setWorkspace w
    match engine.address.storage with
    | .memory => return none
    | .unknownMode => refuseStore env "the mode of the database is not known"
    | .file path mustExist =>
      let place := w.placeOf path
      if mustExist && (w.root.get? place).isNone then refuseStore env "the file is missing"
      return some place

/-- The database and the place of its file. -/
def openDatabase (env : Environment) (s : Settings) : Session (Option (List Text) × Database) := do
  match ← databasePlace env s with
  | none => return (none, {})
  | some place =>
    let root := (← workspace).root
    match root.write [] place with
    | .error e => refuseStore env e.message
    | .ok _ =>
      match root.bytes? place with
      | none => return (some place, {})
      | some bytes =>
        match Database.ofBytes? bytes with
        | none => refuseStore env "the file is no database"
        | some db => return (some place, db)

/-- Does some work with a registry over the database, which is kept afterwards. -/
def withRegistry {α : Type} (env : Environment) (s : Settings)
    (work : Registry → Except ProjectError α × Registry) : Session α := do
  let (place, db) ← openDatabase env s
  let registry := Registry.ofSettings s env.now
  let (outcome, registry) := work { registry with
    backend := { registry.backend with database := db } }
  match place with
  | none => pure ()
  | some place =>
    let w ← workspace
    let root ← orFail .tree (w.root.write registry.backend.database.toBytes place)
    setWorkspace { w with root := root }
  orFail .project outcome

/-- Replaces the files of a project by those of a directory. -/
def sync (env : Environment) (s : Settings) (inJson : Bool) (directory project actor : Text)
    (message : Option Text) : Session Unit := do
  let files ← load env s (← directoryOf directory)
  let answer ← withRegistry env s fun r =>
    r.perform project (.sync files (.text actor) (.ofText? message) .nothing)
  match answer with
  | .synced result =>
    if inJson then putJson (.object (("project_id", .string project) :: result.members))
    else tell env (result.report project)
  | _ => pure ()

def history (env : Environment) (s : Settings) (inJson : Bool) (project : Text) (limit : Int) :
    Session Unit := do
  let page ← withRegistry env s fun r =>
    r.runShared (Ledger.page r.setup project (some { length := limit }))
  if inJson then putJson page.json else tell env (page.report project)

def helpText : Text := .ofStrings [
  "Usage: livepreview [--json] [--verbose] COMMAND",
  "",
  "  render DIRECTORY [--out FILE] [--mode MODE] [--title TEXT]",
  "  hash DIRECTORY",
  "  diff OLD NEW",
  "  summary DIRECTORY",
  "  extract RESPONSE [--out DIRECTORY]",
  "  sync DIRECTORY --project ID [--actor ID] [--message TEXT]",
  "  history --project ID [--limit N]",
  ""]

def perform (env : Environment) (s : Settings) (inJson : Bool) : Request → Session Unit
  | .help => put helpText
  | .render directory out mode title => render env s directory out mode title
  | .hash directory => hash env s inJson directory
  | .diff old new => diff env s inJson old new
  | .summary directory => summary env s inJson directory
  | .extract response out => extract env inJson response out
  | .sync directory project actor message => sync env s inJson directory project actor message
  | .history project limit => history env s inJson project limit

def session (env : Environment) (arguments : List Text) : Session Unit := do
  match ← orUsage (Opening.read? arguments) with
  | .help => put helpText
  | .command inJson verb rest =>
    let s ← settings env
    let request ← orUsage (Request.read? verb rest)
    perform env s inJson request

/-- How a command line ended: why it stopped, if it did, and what was done. -/
structure Outcome where
  stop : Option Stop
  progress : Progress

def run (env : Environment) (w : Workspace) (arguments : List Text) : Outcome :=
  match (session env arguments).run.run { workspace := w } with
  | (.ok (), p) => ⟨none, p⟩
  | (.error stop, p) => ⟨some stop, p⟩

def Outcome.exitCode (o : Outcome) : Nat :=
  match o.stop with
  | none => 0
  | some (.failed _) => 1
  | some .usage => 2
  | some .refused => 3

end SitePreview.Command
