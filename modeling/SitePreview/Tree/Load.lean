import SitePreview.FileSet
import SitePreview.Text.Utf8
import SitePreview.Tree.Basic

/-! Loading a project from a directory. Its visible files are those outside hidden directories and
outside the directories of version control, dependencies and build results; of these the ones that
are not too large and hold UTF-8 text are taken. -/

namespace SitePreview.Node

/-- The names of directories that are passed over. -/
def skippedDirectories : List Text :=
  [".git", ".hg", ".svn", "node_modules", "__pycache__", "dist", "build", ".venv"]

/-- A file in this place is seen by the loader. -/
def isVisible (place : List Text) : Bool :=
  place.dropLast.all (fun name => !skippedDirectories.contains name) &&
    place.all fun name => !name.startsWith "."

/-- The text of a file that is not too large and holds UTF-8. -/
def textOf? (maxBytes : Int) (bytes : List UInt8) : Option Text :=
  if maxBytes < bytes.length then none else Text.ofUtf8? bytes

def noDirectoryMessage (path : Text) : Text :=
  "Project directory does not exist or is not a directory: '" ++ path ++ "'"

/-- The files that the loader takes, in the order of their places. -/
def loadedFiles (maxBytes : Int) (root : Node) : List (List Text × Text) :=
  (sortByPlace root.files).filterMap fun (place, bytes) =>
    if isVisible place then (textOf? maxBytes bytes).map fun t => (place, t) else none

/-- The file set that the loader makes of a directory. -/
def load (maxBytes : Int) (root : Node) : FileSet :=
  .ofList ((root.loadedFiles maxBytes).map fun (place, t) => (Text.join "/" place, t))

end SitePreview.Node
