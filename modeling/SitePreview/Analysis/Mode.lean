import SitePreview.Analysis.Kind
import SitePreview.FileSet
import SitePreview.Text.Blank
import SitePreview.Text.Fold

/-! Render modes. A project with component files is bundled, one with a full markup document is
passed through, and all others get a plain shell. -/

namespace SitePreview

/-- How a preview document is made. -/
inductive RenderMode
  | passthrough
  | component
  | plain
deriving DecidableEq

namespace RenderMode

def all : List RenderMode := [passthrough, component, plain]

def name : RenderMode → Text
  | passthrough => "passthrough"
  | component => "component"
  | plain => "plain"

def ofName? (name : Text) : Option RenderMode := all.find? fun m => m.name = name

end RenderMode

/-- A document type declaration or the start tag of a root element stands here. -/
def startsDocument (s : Text) : Bool :=
  (Text.afterFolded? "<!doctype" s).isSome ||
    match Text.afterFolded? "<html" s with
    | some (c :: _) => c.isBlank || c = '>'
    | _ => false

/-- The markup holds a document type declaration or the start tag of a root element. -/
def isFullDocument : Text → Bool
  | [] => false
  | c :: s => startsDocument (c :: s) || isFullDocument s

/-- The number of slashes in a path. -/
def depth (path : Text) : Nat := path.countP fun c : CodePoint => c = '/'

/-- The path ends in the name of an index page. -/
def isIndexPage (path : Text) : Bool :=
  let name := (Text.takeRightWhile (fun c : CodePoint => c ≠ '/') path).toLower
  name = "index.html" || name = "index.htm"

/-- The first of the paths with the fewest slashes. -/
def shallowest? : List Text → Option Text
  | [] => none
  | p :: ps => some (ps.foldl (fun best q => if depth q < depth best then q else best) p)

/-- The full document to pass through: the shallowest index page, else the first in code point
order. -/
def FileSet.fullDocument? (files : FileSet) : Option Text :=
  let candidates := (pathsOfKind files.paths .markup).filter fun p =>
    isFullDocument (files.content p)
  (shallowest? (candidates.filter isIndexPage)).orElse fun _ => candidates.head?

/-- The mode in which a project is rendered when none is asked for. -/
def FileSet.renderMode (files : FileSet) : RenderMode :=
  if files.paths.any fun p => FileKind.ofPath p = .component then .component
  else if files.fullDocument?.isSome then .passthrough
  else .plain

end SitePreview
