import SitePreview.Path

/-! Kinds of files, told by the suffix of their names in letters of any case. -/

namespace SitePreview

/-- What a file is for. -/
inductive FileKind
  | markup
  | style
  | script
  | component
  | other
deriving DecidableEq

namespace FileKind

def all : List FileKind := [markup, style, script, component, other]

def name : FileKind → Text
  | markup => "markup"
  | style => "style"
  | script => "script"
  | component => "component"
  | other => "other"

/-- The kinds by suffix in small letters. -/
def suffixes : List (Text × FileKind) :=
  [(".html", markup), (".htm", markup), (".css", style), (".js", script), (".mjs", script),
    (".jsx", component), (".tsx", component)]

def ofPath (path : Text) : FileKind :=
  (suffixes.lookup (Path.ofText path).suffix.toLower).getD other

end FileKind

/-- The paths of one kind, in code point order. -/
def pathsOfKind (paths : List Text) (kind : FileKind) : List Text :=
  Text.sort (paths.filter fun p => FileKind.ofPath p = kind)

/-- The editor languages by suffix in small letters. -/
def languages : List (Text × Text) :=
  [(".html", "html"), (".htm", "html"), (".css", "css"), (".scss", "css"), (".less", "css"),
    (".js", "javascript"), (".mjs", "javascript"), (".jsx", "jsx"), (".tsx", "tsx"),
    (".ts", "typescript"), (".json", "json"), (".md", "markdown"), (".svg", "svg"),
    (".txt", "text")]

def language (path : Text) : Text :=
  (languages.lookup (Path.ofText path).suffix.toLower).getD "text"

end SitePreview
