import SitePreview.Path
import SitePreview.Tree.Basic

/-! Workspaces: a tree of files and the place in it from which paths that are not absolute start. A
path is found step by step; `..` leads back to the directory above, and the root is above itself. -/

namespace SitePreview

/-- A tree and the place of the working directory in it. -/
structure Workspace where
  root : Node
  directory : List Text

namespace Workspace

/-- The place from which a path starts. -/
def start (w : Workspace) (isAbsolute : Bool) : List Text := if isAbsolute then [] else w.directory

/-- The step stays in the directory. -/
def staysHere (step : Text) : Bool := step = [] || step = "."

/-- The place that steps lead to in the tree. Each step needs a directory. -/
def follow? (root : Node) (here : List Text) : List Text → Option (List Text)
  | [] => if (root.get? here).isSome then some here else none
  | step :: steps =>
    if !root.isDirectory here then none
    else if staysHere step then follow? root here steps
    else if step = ".." then follow? root here.dropLast steps
    else follow? root (here ++ [step]) steps

/-- The place that a path leads to, if there is anything. -/
def find? (w : Workspace) (path : Text) : Option (List Text) :=
  if path = [] then none else follow? w.root (w.start (path.startsWith "/")) (path.splitOn '/')

/-- The place that a path names, whether there is anything or not. -/
def placeOf (w : Workspace) (path : Text) : List Text :=
  (path.splitOn '/').foldl (fun here step =>
    if staysHere step then here else if step = ".." then here.dropLast else here ++ [step])
    (w.start (path.startsWith "/"))

/-- The place that segments lead to, with all directories on the way made. A file is in the way. -/
def enter (root : Node) (here : List Text) : List Text → Except TreeError (List Text × Node)
  | [] => .ok (here, root)
  | step :: steps =>
    if step = ".." then enter root here.dropLast steps
    else
      match root.makeDirectories (here ++ [step]) with
      | .ok root => enter root (here ++ [step]) steps
      | .error e =>
        .error (if e = .nameTooLong || steps.isEmpty then e else .notDirectory)

/-- The number of bytes that a path has to be shorter than. -/
def pathSizeBound : Nat := 4096

/-- The place of a path whose directories are made. -/
def makeParents (w : Workspace) (path : Path) : Except TreeError (List Text × Workspace) :=
  if pathSizeBound ≤ (Text.join "/" path.directories).utf8Size then .error .nameTooLong
  else
    (enter w.root (w.start path.isAbsolute) path.directories).map fun (here, root) =>
      (here, { w with root := root })

/-- Writes a file, for which directories are made where there are none. -/
def write (w : Workspace) (path : Path) (bytes : List UInt8) : Except TreeError Workspace := do
  let (here, w) ← w.makeParents path
  if path.segments = [] || path.name = ".." then throw .isDirectory
  if pathSizeBound ≤ path.toText.utf8Size then throw .nameTooLong
  let root ← w.root.write bytes (here ++ [path.name])
  return { w with root := root }

/-- The bytes of the file that a path leads to. -/
def bytes? (w : Workspace) (path : Text) : Option (List UInt8) :=
  (w.find? path).bind fun place => w.root.bytes? place

end Workspace

end SitePreview
