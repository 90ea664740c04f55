import SitePreview.Analysis.Mode
import SitePreview.Document.Component
import SitePreview.Markup.Reference

/-! Rendering: a file set becomes one document that needs no server. A document that is passed through
is the project's own, with its local references dropped and its styles and scripts put in whole. -/

namespace SitePreview.Document

open Text Markup

/-- The fragment and a line feed in front of the tag. -/
def insertBefore (f : Found) (fragment : Text) : Text :=
  f.before ++ fragment ++ "\n" ++ f.tag ++ f.after

/-- The fragment at the start of the head, in a new head behind the start of the root element, or in
front of everything. -/
def insertHeadStart (document fragment : Text) : Text :=
  match first? (startTag? "head") document with
  | some f => f.before ++ f.tag ++ "\n" ++ fragment ++ f.after
  | none =>
    match first? (startTag? "html") document with
    | some f => f.before ++ f.tag ++ "\n<head>\n" ++ fragment ++ "\n</head>" ++ f.after
    | none => fragment ++ "\n" ++ document

/-- The fragment at the end of the head, in front of the body, or behind everything. -/
def insertHeadEnd (document fragment : Text) : Text :=
  match (first? (endTag? "head") document).orElse fun _ =>
      first? (startTagName? "body") document with
  | some f => insertBefore f fragment
  | none => document ++ "\n" ++ fragment

/-- The fragment at the end of the body or of the root element, or behind everything. -/
def insertBodyEnd (document fragment : Text) : Text :=
  match (last? (endTag? "body") document).orElse fun _ => last? (endTag? "html") document with
  | some f => insertBefore f fragment
  | none => document ++ "\n" ++ fragment

/-- The fragment put in by `insert`, unless it is empty. -/
def insertPart (insert : Text → Text → Text) (document fragment : Text) : Text :=
  if fragment = [] then document else insert document fragment

/-- The document already refers to the utility class framework. -/
def hasFramework (options : PreviewOptions) (document : Text) : Bool :=
  includes options.tailwindUrl document || includes "cdn.tailwindcss.com" document

/-- The project's own full document as a preview; a project without one gets a plain document. -/
def passthrough (files : FileSet) (options : PreviewOptions) : Text :=
  match files.fullDocument? with
  | none => plain files options
  | some path =>
    let document := insertHeadStart (stripLocalReferences (files.content path)) diagnostics
    let framework := if hasFramework options document then [] else frameworkTag files options
    let document := insertPart insertHeadEnd document framework
    let document := insertPart insertHeadEnd document
      (styleBlock false (contentsOfKind files .style))
    insertPart insertBodyEnd document (scriptBlock (contentsOfKind files .script))

/-- The preview document of a project in the given mode, or in the one that its files call for. -/
def render (files : FileSet) (mode : Option RenderMode) (options : PreviewOptions) : Text :=
  match mode.getD files.renderMode with
  | .passthrough => passthrough files options
  | .component => component files options
  | .plain => plain files options

end SitePreview.Document
