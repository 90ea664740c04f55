import SitePreview.FileSet

/-! The changes between two file sets: contents are compared exactly, and all lists of paths are in
code point order. -/

namespace SitePreview

/-- The paths that differ between an old and a new file set. -/
structure ChangeSet where
  changed : List Text
  removed : List Text
  added : List Text
  modified : List Text
deriving DecidableEq

namespace ChangeSet

def isEmpty (c : ChangeSet) : Bool := c.changed.isEmpty && c.removed.isEmpty

/-- The changes from `old` to `new`; no old file set counts as an empty one. -/
def between (old : Option FileSet) (new : FileSet) : ChangeSet :=
  let old := old.getD .empty
  let added := Text.sort (new.paths.filter fun p => !old.contains p)
  let modified := Text.sort (new.paths.filter fun p => old.contains p && old.get? p ≠ new.get? p)
  { changed := Text.sort (added ++ modified)
    removed := Text.sort (old.paths.filter fun p => !new.contains p)
    added := added
    modified := modified }

end ChangeSet

end SitePreview
