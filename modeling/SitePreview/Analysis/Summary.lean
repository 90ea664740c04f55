import SitePreview.Analysis.Facts
import SitePreview.Analysis.Kind
import SitePreview.FileSet
import SitePreview.Text.Utf8

/-! Summaries: facts about a file set for its readers. They depend on the files alone and not on the
order in which these came in. -/

-- The zero of sums is that of the core library, beside Mathlib too.
attribute [local instance (2000)] Zero.ofOfNat0

namespace SitePreview

structure Summary where
  fileCount : Nat
  filePaths : List Text
  components : List Text
  routes : List Text
  hasCss : Bool
  hasTailwind : Bool
  totalSize : Nat
deriving DecidableEq

/-- A file of this kind is searched for components and routes. -/
def FileKind.isSource : FileKind → Bool
  | script | component | markup => true
  | style | other => false

def FileSet.usesUtilityClasses (files : FileSet) : Bool :=
  files.contents.any SitePreview.usesUtilityClasses

def FileSet.summary (files : FileSet) : Summary :=
  let paths := files.sortedPaths
  let sources := (paths.filter fun p => (FileKind.ofPath p).isSource).map files.content
  { fileCount := files.size
    filePaths := paths
    components := Text.distinct (sources.flatMap componentNames)
    routes := Text.distinct (sources.flatMap SitePreview.routes)
    hasCss := paths.any fun p => FileKind.ofPath p = .style
    hasTailwind := files.usesUtilityClasses
    totalSize := (files.contents.map Text.utf8Size).sum }

end SitePreview
