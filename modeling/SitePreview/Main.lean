import SitePreview.Command.Run
import Std.Time.DateTime.Timestamp

/-! The command line program. It reads all that is below the working directory, runs the command on
it, writes the files that are new or changed, and prints output and messages. Paths that lead out of
the working directory are not found. -/

namespace SitePreview.Main

open Command

/-- How deep directories are read. -/
def depthLimit : Nat := 64

def readEntries : Nat → IO.FS.DirEntry → IO (Text × Node)
  | 0, e => return (.ofString e.fileName, .empty)
  | depth + 1, e => do
    let name : Text := .ofString e.fileName
    if ← e.path.isDir then
      let entries ← (← e.path.readDir).toList.mapM (readEntries depth)
      return (name, .directory entries)
    else
      return (name, .file (← IO.FS.readBinFile e.path).toList)

/-- The tree below the working directory. -/
def readTree : IO Node := do
  let entries ← (← (← IO.currentDir).readDir).toList.mapM (readEntries depthLimit)
  return .directory entries

/-- Makes the directories and writes the files that are new or changed. -/
def writeTree (old new : Node) : IO Unit := do
  let here ← IO.currentDir
  for place in new.places do
    let path := here / ((Text.join "/" place).toString?.getD "")
    match new.get? place with
    | some (.directory _) => IO.FS.createDirAll path
    | some (.file bytes) =>
      if old.bytes? place ≠ some bytes then IO.FS.writeBinFile path ⟨bytes.toArray⟩
    | none => pure ()

/-- The environment variables of all settings. -/
def readVariables : IO (List (Text × Text)) :=
  Settings.fieldNames.filterMapM fun field => do
    let name := ((Settings.variableName field).toString?.getD "").toUpper
    return (← IO.getEnv name).map fun value => (.ofString name, .ofString value)

/-- What is told about a command that ended early, if it was not told yet. -/
def stopText : Option Stop → Text
  | some .usage => helpText
  | some (.failed f) => f.message ++ "\n"
  | _ => []

def printText (h : IO.FS.Stream) (t : Text) : IO Unit := h.putStr (t.toString?.getD "")

end SitePreview.Main

open SitePreview SitePreview.Main in
def main (arguments : List String) : IO UInt32 := do
  let tree ← readTree
  let now ← Std.Time.Timestamp.now
  let env : Command.Environment := {
    bindings := ← readVariables
    now := { seconds := now.toSecondsSinceUnixEpoch.val } }
  let here : Text := "work"
  let workspace : Workspace := { root := .directory [(here, tree)], directory := [here] }
  let outcome := Command.run env workspace (arguments.map Text.ofString)
  let after := outcome.progress.workspace
  writeTree tree ((after.root.get? after.directory).getD .empty)
  printText (← IO.getStdout) outcome.progress.output
  printText (← IO.getStderr) outcome.progress.messages
  printText (← IO.getStderr) (stopText outcome.stop)
  return outcome.exitCode.toUInt32
