import SitePreview.Console.Block
import SitePreview.Database.Engine
import SitePreview.Project.Routine
import SitePreview.Settings.Load

/-! Sessions: what a command does with its workspace and writes to its output and its messages,
until it is done or has to stop. What was done before a stop stays done. -/

namespace SitePreview.Command

open Text Console

/-- What a command sees of its surroundings. -/
structure Environment where
  bindings : List (Text × Text) := []
  now : Timestamp
  consoleWidth : Nat := 200

inductive Failure
  | settings (e : Settings.LoadError)
  | project (e : ProjectError)
  | tree (e : TreeError)
  | markup (e : MarkupError)
  | unreadable (path : Text)
  | unwritable (e : EncodeError)
  | nulInPath (path : Text)
  | engine (e : Database.EngineError)

namespace Failure

/-- The text about what is wrong in some places. -/
def issuesText (is : List Issue) : Text := Text.join ", " (is.map fun i => i.cause.message)

def message : Failure → Text
  | settings (.notJson field source) => Settings.LoadError.notJsonMessage field source
  | settings (.issues is) => "settings: " ++ issuesText is
  | project e => e.message
  | tree e => e.message
  | markup e => e.message
  | unreadable path => "not UTF-8 text: " ++ path
  | unwritable e => e.message
  | nulInPath path => "file path contains a NUL byte: " ++ path
  | engine e => e.message

end Failure

/-- Why a command stops early: it cannot be asked for like this, it cannot be done, which was told
in a message, or something else went wrong. -/
inductive Stop
  | usage
  | refused
  | failed (f : Failure)

structure Progress where
  workspace : Workspace
  output : Text := []
  messages : Text := []

/-- A part of what a command does. -/
abbrev Session := ExceptT Stop (StateM Progress)

namespace Session

def fail {α : Type} (f : Failure) : Session α := throw (.failed f)

/-- The value, or a stop with what went wrong. -/
def orFail {ε α : Type} (failure : ε → Failure) : Except ε α → Session α
  | .ok a => return a
  | .error e => fail (failure e)

/-- The value, or a stop because it cannot be asked for like this. -/
def orUsage {α : Type} : Option α → Session α
  | some a => return a
  | none => throw .usage

def workspace : Session Workspace := return (← get).workspace

def setWorkspace (w : Workspace) : Session Unit := modify fun p => { p with workspace := w }

def put (t : Text) : Session Unit := modify fun p => { p with output := p.output ++ t }

/-- Shows blocks among the messages. -/
def tell (env : Environment) (blocks : List Block) : Session Unit := do
  let t ← orFail .markup (print env.consoleWidth blocks)
  modify fun p => { p with messages := p.messages ++ t }

/-- Tells why the command cannot be done, and stops. -/
def refuse {α : Type} (env : Environment) (reason : Text) : Session α := do
  tell env [.text ("[red]" ++ reason ++ "[/red]")]
  throw .refused

def writeFile (path : Path) (content : Text) : Session Unit := do
  if path.segments.any fun s => s.contains '\x00' then fail (.nulInPath path.toText)
  let bytes ← orFail .unwritable content.toUtf8
  setWorkspace (← orFail .tree ((← workspace).write path bytes))

end Session

end SitePreview.Command
