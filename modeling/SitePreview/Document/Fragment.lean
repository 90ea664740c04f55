import SitePreview.Analysis.Summary
import SitePreview.Document.Options
import SitePreview.Document.Runtime
import SitePreview.Markup.Escape

/-! The parts that all preview documents are put together from. A part that is empty leaves no line
behind. Plain documents are a shell around the project's markup and scripts. -/

namespace SitePreview.Document

open Text

/-- The contents of the files of one kind, in the order of paths. -/
def contentsOfKind (files : FileSet) (kind : FileKind) : List Text :=
  (pathsOfKind files.paths kind).map files.content

/-- The script element that relays messages. -/
def diagnostics : Text := "<script>\n" ++ diagnosticsScript ++ "\n</script>"

/-- A style element with the given texts, behind the baseline style if asked for; empty if there is
nothing to hold. -/
def styleBlock (baseline : Bool) (styles : List Text) : Text :=
  let parts := (if baseline then [baselineCss] else []) ++ styles.map (Markup.escapeEndTags "style")
  if parts.isEmpty then [] else "<style>\n" ++ ofLines parts ++ "\n</style>"

/-- A script element with the given texts; empty if there are none. -/
def scriptBlock (scripts : List Text) : Text :=
  if scripts.isEmpty then []
  else "<script>\n" ++ ofLines (scripts.map (Markup.escapeEndTags "script")) ++ "\n</script>"

def libraryTag (url : Text) (attributes : Text) : Text :=
  "<script src=\"" ++ Markup.escape url ++ "\"" ++ attributes ++ "></script>"

/-- The script element of the utility class framework, for projects that use it. -/
def frameworkTag (files : FileSet) (options : PreviewOptions) : Text :=
  if files.usesUtilityClasses then libraryTag options.tailwindUrl [] else []

/-- The element to which a root component is attached. -/
def mountElement (options : PreviewOptions) : Text :=
  "<div id=\"" ++ Markup.escape options.mountElementId ++ "\"></div>"

/-- The lines that start every head. -/
def headStart (title : Text) : List Text :=
  ["<head>", "<meta charset=\"UTF-8\">",
    "<meta name=\"viewport\" content=\"width=device-width, initial-scale=1.0\">",
    "<title>" ++ Markup.escape title ++ "</title>"]

/-- A head with the title and the parts. -/
def head (title : Text) (parts : List Text) : Text :=
  ofLines (headStart title ++ parts.filter (· ≠ [])) ++ "\n</head>"

/-- A document with the head and the parts of the body. -/
def shell (head : Text) (parts : List Text) : Text :=
  "<!DOCTYPE html>\n<html lang=\"en\">\n" ++ head ++ "\n<body>\n" ++
    ofLines (parts.filter (· ≠ [])) ++ "\n</body>\n</html>\n"

def plain (files : FileSet) (options : PreviewOptions) : Text :=
  let markup := contentsOfKind files .markup
  shell
    (head options.title
      [diagnostics, frameworkTag files options, styleBlock true (contentsOfKind files .style)])
    [if markup.isEmpty then mountElement options else Text.ofLines markup,
      scriptBlock (contentsOfKind files .script)]

end SitePreview.Document
