import SitePreview.Snapshot.Canonical
import SitePreview.Snapshot.Change

/-! The outcome of replacing the files of a project. -/

namespace SitePreview

/-- The hash of the new files and the paths in which they differ from the old ones; `recorded` tells
whether a version record was written. -/
structure SyncResult where
  hash : Text
  changedPaths : List Text
  removedPaths : List Text
  recorded : Bool
deriving DecidableEq

/-- The outcome of replacing `old` by `new`. It fails if a text in `new` is not UTF-8. -/
def SyncResult.between (old : Option FileSet) (new : FileSet) :
    Except Text.EncodeError SyncResult := do
  let changes := ChangeSet.between old new
  return ⟨← new.hash, changes.changed, changes.removed, true⟩

end SitePreview
