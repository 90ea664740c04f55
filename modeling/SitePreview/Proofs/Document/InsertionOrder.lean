import SitePreview.Document.Render
import SitePreview.Proofs.FileSet.Lookup
import SitePreview.Snapshot.Canonical
import SitePreview.Snapshot.Change

/-! Insertion order. Whatever is made of a file set reads its files in the order of their paths, or
counts them: file sets with the same entries have the same facts, hashes, changes and documents. -/

namespace SitePreview

namespace FileSet.SameEntries

open Document

variable {a b : FileSet}

theorem usesUtilityClasses_eq (h : a.SameEntries b) :
    a.usesUtilityClasses = b.usesUtilityClasses :=
  h.contents_perm.any_eq

theorem fullDocument?_eq (h : a.SameEntries b) : a.fullDocument? = b.fullDocument? := by
  rw [fullDocument?, fullDocument?, h.pathsOfKind_eq, h.content_eq]

theorem renderMode_eq (h : a.SameEntries b) : a.renderMode = b.renderMode := by
  rw [renderMode, renderMode, h.fullDocument?_eq, h.paths_perm.any_eq]

theorem summary_eq (h : a.SameEntries b) : a.summary = b.summary := by
  have hsize : (a.contents.map Text.utf8Size).sum = (b.contents.map Text.utf8Size).sum :=
    (h.contents_perm.map _).sum_nat
  rw [summary, summary, h.size_eq, h.sortedPaths_eq, h.content_eq, h.usesUtilityClasses_eq, hsize]

theorem canonicalText_eq (h : a.SameEntries b) : a.canonicalText = b.canonicalText := by
  rw [canonicalText, canonicalText, h.sortedPaths_eq, h.content_eq]

theorem hash_eq (h : a.SameEntries b) : a.hash = b.hash := by
  rw [hash, hash, canonicalBytes, canonicalBytes, h.canonicalText_eq]

theorem between_old_eq (h : a.SameEntries b) (new : FileSet) :
    ChangeSet.between (some a) new = ChangeSet.between (some b) new := by
  simp only [ChangeSet.between, Option.getD_some, h.contains_eq, h.get?_eq,
    h.sort_filter_paths_eq]

theorem between_new_eq (h : a.SameEntries b) (old : Option FileSet) :
    ChangeSet.between old a = ChangeSet.between old b := by
  simp only [ChangeSet.between, h.contains_eq, h.get?_eq, h.sort_filter_paths_eq]

theorem contentsOfKind_eq (h : a.SameEntries b) (kind : FileKind) :
    contentsOfKind a kind = contentsOfKind b kind := by
  rw [contentsOfKind, contentsOfKind, h.pathsOfKind_eq, h.content_eq]

theorem frameworkTag_eq (h : a.SameEntries b) (options : PreviewOptions) :
    frameworkTag a options = frameworkTag b options := by
  rw [frameworkTag, frameworkTag, h.usesUtilityClasses_eq]

theorem bundle_eq (h : a.SameEntries b) : bundle a = bundle b := by
  have hchunk : chunk a = chunk b := funext fun p => by rw [chunk, chunk, h.content_eq]
  rw [bundle, bundle, h.pathsOfKind_eq, hchunk]

theorem hasTyped_eq (h : a.SameEntries b) : hasTyped a = hasTyped b := h.paths_perm.any_eq

theorem plain_eq (h : a.SameEntries b) (options : PreviewOptions) :
    plain a options = plain b options := by
  simp only [plain, h.contentsOfKind_eq, h.frameworkTag_eq]

theorem component_eq (h : a.SameEntries b) (options : PreviewOptions) :
    component a options = component b options := by
  simp only [component, projectBlock, h.bundle_eq, h.hasTyped_eq, h.frameworkTag_eq,
    h.contentsOfKind_eq]

theorem passthrough_eq (h : a.SameEntries b) (options : PreviewOptions) :
    passthrough a options = passthrough b options := by
  simp only [passthrough, h.fullDocument?_eq, h.content_eq, h.plain_eq, h.frameworkTag_eq,
    h.contentsOfKind_eq]

theorem render_eq (h : a.SameEntries b) (mode : Option RenderMode) (options : PreviewOptions) :
    render a mode options = render b mode options := by
  rw [render, render, h.renderMode_eq, h.passthrough_eq, h.component_eq, h.plain_eq]

end FileSet.SameEntries

namespace Document

/-- The order in which files came in shows in no document, in no fact about the files, in no hash
and on neither side of a comparison. -/
theorem insertion_order_hidden {a b : FileSet} (h : a.SameEntries b) :
    (∀ mode options, render a mode options = render b mode options) ∧
      a.renderMode = b.renderMode ∧ a.fullDocument? = b.fullDocument? ∧
      a.usesUtilityClasses = b.usesUtilityClasses ∧ a.summary = b.summary ∧ a.hash = b.hash ∧
      (∀ new, ChangeSet.between (some a) new = ChangeSet.between (some b) new) ∧
      ∀ old, ChangeSet.between old a = ChangeSet.between old b :=
  ⟨h.render_eq, h.renderMode_eq, h.fullDocument?_eq, h.usesUtilityClasses_eq, h.summary_eq,
    h.hash_eq, h.between_old_eq, h.between_new_eq⟩

/-- Two index pages, a style, a script and components, with declarations that repeat. -/
def gatheredFiles : FileSet :=
  .ofList [("z/index.html", "<html></html>"), ("App.jsx", "function App() \x7b\x7d"),
    ("a/index.html", "<!doctype html>"), ("m.css", "p \x7b\x7d"),
    ("components/Nav.tsx", "const Nav = 1; const App = 2;"), ("b.js", "class Tool \x7b\x7d")]

/-- The same files, the last one first. -/
def scatteredFiles : FileSet := .ofList gatheredFiles.entries.reverse

theorem insertion_order_hidden_scatteredFiles :
    gatheredFiles ≠ scatteredFiles ∧ gatheredFiles.SameEntries scatteredFiles ∧
      (∀ options, render gatheredFiles none options = render scatteredFiles none options) ∧
      gatheredFiles.fullDocument? = scatteredFiles.fullDocument? ∧
      gatheredFiles.summary = scatteredFiles.summary := by
  have hsame : gatheredFiles.SameEntries scatteredFiles := by decide +kernel
  obtain ⟨hrender, -, hdocument, -, hsummary, -⟩ := insertion_order_hidden hsame
  exact ⟨by decide +kernel, hsame, hrender none, hdocument, hsummary⟩

end Document

end SitePreview
