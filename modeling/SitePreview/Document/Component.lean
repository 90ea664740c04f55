import SitePreview.Path
import SitePreview.Document.Fragment
import SitePreview.Json.Printer
import SitePreview.Source.Normal
import SitePreview.Text.Word

/-! Component documents: the normal sources of all component files in one script, behind the
libraries they need and in front of the script that mounts the root component. That script tries the
candidate names in order and attaches the first one that is a function. -/

namespace SitePreview

/-! ### The order of component files

Files below a `components` directory come first and, among the others, those whose name mentions
`App` last; within these groups paths are in code point order. -/

/-- The file lies below a directory named `components`. -/
def isSharedComponent (path : Text) : Bool := (Path.ofText path).directories.contains "components"

/-- The place of a file's group: shared components, other files, root applications. -/
def loadGroup (path : Text) : Nat :=
  if isSharedComponent path then 0
  else if Text.includes "App" (Path.ofText path).name then 2
  else 1

/-- The first path is loaded no later than the second. -/
def loadsBefore (a b : Text) : Bool :=
  loadGroup a < loadGroup b || (loadGroup a = loadGroup b && a ≤ b)

def loadOrder (paths : List Text) : List Text := paths.mergeSort loadsBefore

end SitePreview

namespace SitePreview.Document

open Text

/-- The name can stand in a script as it is. A line feed at its end is let through. -/
def isCandidateName : Text → Bool
  | [] => false
  | c :: s =>
    let rest := s.dropWhile CodePoint.isIdentifierPart
    c.isIdentifierStart && (rest = [] || rest = "\n")

/-- The row of the table of candidates for a name. -/
def candidateRow (name : Text) : Text :=
  "    [" ++ Json.quote true name ++ ", typeof " ++ name ++ " !== \"undefined\" ? " ++ name ++
    " : undefined]"

/-- The script that mounts the first of the candidates that is a function. -/
def mountHarness (candidates : List Text) (mountElementId : Text) : Text :=
  let names := candidates.filter isCandidateName
  ofLines [
    "(function () \x7b",
    "  var mountNode = document.getElementById(" ++ Json.quote true mountElementId ++ ");",
    "  var candidates = [",
    join ",\n" (names.map candidateRow),
    "  ];",
    "  for (var i = 0; i < candidates.length; i++) \x7b",
    "    var name = candidates[i][0];",
    "    var component = candidates[i][1];",
    "    if (typeof component !== \"function\") \x7b continue; \x7d",
    "    try \x7b",
    "      ReactDOM.createRoot(mountNode).render(React.createElement(component));",
    "      return;",
    "    \x7d catch (err) \x7b",
    "      console.error(\"Failed to mount \" + name + \": \" + " ++
      "(err && err.message ? err.message : err));",
    "    \x7d",
    "  \x7d",
    "  console.warn(" ++ Json.quote true ("No root component found; tried: " ++ join ", " names) ++
      ");",
    "\x7d)();"]

/-- The path as one line. -/
def label (path : Text) : Text := replace '\r' " " (replace '\n' " " path)

/-- A component file in the bundle: a comment line with its path and its normal source. -/
def chunk (files : FileSet) (path : Text) : Text :=
  "// --- " ++ label path ++ " ---\n" ++ Source.normalize (files.content path)

/-- The component files in load order, with a blank line between them. -/
def bundle (files : FileSet) : Text :=
  join "\n\n" ((loadOrder (pathsOfKind files.paths .component)).map (chunk files))

/-- Some file needs the preset for typed components. -/
def hasTyped (files : FileSet) : Bool := files.paths.any fun p => p.toLower.endsWith ".tsx"

/-- The project's own block of the script. Its names shadow those in front of it. -/
def projectBlock (files : FileSet) (options : PreviewOptions) : Text :=
  "\x7b\n" ++ Markup.escapeEndTags "script" (bundle files) ++ "\n\n" ++
    mountHarness options.rootCandidates options.mountElementId ++ "\n\x7d"

/-- The component document of a project. -/
def component (files : FileSet) (options : PreviewOptions) : Text :=
  let presets : Text := if hasTyped files then "tsx,react" else "react"
  let program := join "\n\n" [hookBindings, hashRouter, projectBlock files options]
  shell
    (head options.title
      [diagnostics, frameworkTag files options, libraryTag options.reactUrl " crossorigin",
        libraryTag options.reactDomUrl " crossorigin", libraryTag options.babelUrl [],
        if hasTyped files then "<script>\n" ++ typedPreset ++ "\n</script>" else [],
        styleBlock true (contentsOfKind files .style)])
    [mountElement options,
      "<script type=\"text/babel\" data-presets=\"" ++ presets ++ "\">\n" ++ program ++
        "\n</script>"]

end SitePreview.Document
