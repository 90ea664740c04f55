import SitePreview.Proofs.Document.Scripts
import SitePreview.Proofs.FileSet.Lookup
import SitePreview.Proofs.Text.Parts
import SitePreview.Snapshot.Entry

/-! The bundle of components. Paths fall into three classes, and the classes with the order of texts
in each make up a linear order of all paths: a list of paths has one arrangement in load order,
which depends on nothing but the paths in the list.

The bundle holds the component files and no others, each once and in load order, each behind a
comment line with its path. A path stays in its comment unless it holds one of the two separators
that end a line of a script and are no line breaks of the usual kinds. -/

namespace SitePreview

/-- The text holds a word exactly where the word is a part of it. -/
theorem Text.includes_eq_true_iff {p s : Text} : includes p s = true ↔ p <:+: s := by
  induction s with
  | nil => simp [includes]
  | cons c s ih =>
    rw [includes, Bool.or_eq_true, List.isPrefixOf_iff_prefix, ih, List.infix_cons_iff]

/-- A directory on the path is named `components`. -/
def IsShared (path : Text) : Prop := ("components" : Text) ∈ (Path.ofText path).directories

/-- The name of the file holds `App`. -/
def NamesApp (path : Text) : Prop := "App" <:+: (Path.ofText path).name

/-- Both files are shared components, or neither is and their names hold `App` alike. -/
def SameClass (a b : Text) : Prop :=
  (IsShared a ↔ IsShared b) ∧ (IsShared a ∨ (NamesApp a ↔ NamesApp b))

/-- The first path may stand in front of the second. -/
structure Precedes (a b : Text) : Prop where
  shared : IsShared b → IsShared a
  root : ¬IsShared a → ¬IsShared b → NamesApp a → NamesApp b
  path : SameClass a b → a ≤ b

variable {a b c : Text} {paths others : List Text}

/-- Every path is in one class, and its group tells which. -/
theorem loadGroup_cases (path : Text) :
    (IsShared path ∧ loadGroup path = 0) ∨
      (¬IsShared path ∧ ¬NamesApp path ∧ loadGroup path = 1) ∨
      (¬IsShared path ∧ NamesApp path ∧ loadGroup path = 2) := by
  have hshared : isSharedComponent path = true ↔ IsShared path := List.contains_iff_mem
  have hroot : Text.includes "App" (Path.ofText path).name = true ↔ NamesApp path :=
    Text.includes_eq_true_iff
  rw [loadGroup, ← hshared, ← hroot]
  split
  · next h => exact .inl ⟨h, rfl⟩
  split
  · next h happ => exact .inr (.inr ⟨h, happ, rfl⟩)
  · next h happ => exact .inr (.inl ⟨h, happ, rfl⟩)

theorem sameClass_iff : SameClass a b ↔ loadGroup a = loadGroup b := by
  rw [SameClass]
  rcases loadGroup_cases a with ⟨ha, hga⟩ | ⟨ha, ha', hga⟩ | ⟨ha, ha', hga⟩ <;>
  rcases loadGroup_cases b with ⟨hb, hgb⟩ | ⟨hb, hb', hgb⟩ | ⟨hb, hb', hgb⟩ <;>
  simp [*]

theorem precedes_iff :
    Precedes a b ↔ loadGroup a ≤ loadGroup b ∧ (loadGroup a = loadGroup b → a ≤ b) := by
  have hgroups : ((IsShared b → IsShared a) ∧
      (¬IsShared a → ¬IsShared b → NamesApp a → NamesApp b)) ↔ loadGroup a ≤ loadGroup b := by
    rcases loadGroup_cases a with ⟨ha, hga⟩ | ⟨ha, ha', hga⟩ | ⟨ha, ha', hga⟩ <;>
    rcases loadGroup_cases b with ⟨hb, hgb⟩ | ⟨hb, hb', hgb⟩ | ⟨hb, hb', hgb⟩ <;>
    simp [*]
  rw [← hgroups, ← sameClass_iff]
  exact ⟨fun h => ⟨⟨h.shared, h.root⟩, h.path⟩, fun h => ⟨h.1.1, h.1.2, h.2⟩⟩

/-- The comparison of groups and then of paths is that of classes. -/
theorem loadsBefore_eq_true_iff : loadsBefore a b = true ↔ Precedes a b := by
  rw [precedes_iff, loadsBefore, Bool.or_eq_true, Bool.and_eq_true, decide_eq_true_eq,
    decide_eq_true_eq, decide_eq_true_eq]
  constructor
  · rintro (hlt | ⟨heq, hle⟩)
    · exact ⟨hlt.le, fun heq => absurd heq hlt.ne⟩
    · exact ⟨heq.le, fun _ => hle⟩
  · rintro ⟨hle, hpath⟩
    exact hle.lt_or_eq.imp_right fun heq => ⟨heq, hpath heq⟩

theorem Precedes.trans (hab : Precedes a b) (hbc : Precedes b c) : Precedes a c := by
  rw [precedes_iff] at hab hbc ⊢
  refine ⟨hab.1.trans hbc.1, fun hac => ?_⟩
  -- between two paths of one group there are only paths of that group
  have hgroup : loadGroup a = loadGroup b := by omega
  exact Text.le_trans (hab.2 hgroup) (hbc.2 (hgroup.symm.trans hac))

theorem precedes_total (a b : Text) : Precedes a b ∨ Precedes b a := by
  rw [precedes_iff, precedes_iff]
  rcases Nat.lt_trichotomy (loadGroup a) (loadGroup b) with hlt | heq | hlt
  · exact .inl ⟨hlt.le, fun heq => absurd heq hlt.ne⟩
  · exact (List.le_total a b).imp (fun h => ⟨heq.le, fun _ => h⟩) fun h => ⟨heq.ge, fun _ => h⟩
  · exact .inr ⟨hlt.le, fun heq => absurd heq hlt.ne⟩

theorem Precedes.antisymm (hab : Precedes a b) (hba : Precedes b a) : a = b := by
  rw [precedes_iff] at hab hba
  have hgroup : loadGroup a = loadGroup b := Nat.le_antisymm hab.1 hba.1
  exact List.le_antisymm (hab.2 hgroup) (hba.2 hgroup.symm)

theorem loadOrder_perm (paths : List Text) : (loadOrder paths).Perm paths :=
  List.mergeSort_perm paths _

theorem pairwise_loadOrder (paths : List Text) : (loadOrder paths).Pairwise Precedes := by
  have htrans (a b c : Text) (hab : loadsBefore a b = true) (hbc : loadsBefore b c = true) :
      loadsBefore a c = true := by
    rw [loadsBefore_eq_true_iff] at hab hbc ⊢
    exact hab.trans hbc
  have htotal (a b : Text) : (loadsBefore a b || loadsBefore b a) = true := by
    rw [Bool.or_eq_true, loadsBefore_eq_true_iff, loadsBefore_eq_true_iff]
    exact precedes_total a b
  exact (List.pairwise_mergeSort htrans htotal paths).imp loadsBefore_eq_true_iff.mp

/-- A list in load order is the only arrangement of its paths that is. -/
theorem loadOrder_eq_of_pairwise (hperm : others.Perm paths) (h : others.Pairwise Precedes) :
    loadOrder paths = others :=
  ((loadOrder_perm paths).trans hperm.symm).eq_of_pairwise
    (fun _ _ _ _ hab hba => hab.antisymm hba) (pairwise_loadOrder paths) h

/-- Load order arranges any list of paths, repetitions included: files below `components` first,
then files that do not name `App`, then those that do, each class in code point order. Nothing but
the paths in the list counts, an arranged list stays as it is, and without some paths, or without
one mention of a path, the others stand as before. -/
theorem loadOrder_exact (paths : List Text) :
    (loadOrder paths).Perm paths ∧ (loadOrder paths).Pairwise Precedes ∧
      (∀ others, others.Perm paths → loadOrder others = loadOrder paths) ∧
      loadOrder (loadOrder paths) = loadOrder paths ∧
      (∀ path, loadOrder (paths.erase path) = (loadOrder paths).erase path) ∧
      ∀ stays : Text → Bool, loadOrder (paths.filter stays) = (loadOrder paths).filter stays := by
  have hperm := loadOrder_perm paths
  have hpairwise := pairwise_loadOrder paths
  refine ⟨hperm, hpairwise, fun others h => ?_, ?_, fun path => ?_, fun stays => ?_⟩
  · exact loadOrder_eq_of_pairwise (hperm.trans h.symm) hpairwise
  · exact loadOrder_eq_of_pairwise (List.Perm.refl _) hpairwise
  · exact loadOrder_eq_of_pairwise (hperm.erase path) (hpairwise.sublist List.erase_sublist)
  · exact loadOrder_eq_of_pairwise (hperm.filter stays) (hpairwise.filter stays)

namespace Path

variable {name stem extension : Text}

/-- A suffix ends the name, with something in front of it. -/
theorem exists_stem (h : suffixOf name ≠ []) :
    ∃ stem, stem ≠ [] ∧ name = stem ++ suffixOf name := by
  rw [suffixOf] at h ⊢
  split at h
  · exact absurd rfl h
  next hlong =>
  rw [if_neg hlong]
  rw [not_or, Nat.not_le] at hlong
  let isPart : CodePoint → Bool := fun c => c ≠ '.'
  change Text.takeRightWhile isPart name ≠ [] ∧
    (Text.takeRightWhile isPart name).length + 1 < name.length at hlong
  have hsplit : name.rdropWhile isPart ++ Text.takeRightWhile isPart name = name :=
    List.rdropWhile_append_rtakeWhile
  have hlength := congrArg List.length hsplit
  rw [List.length_append] at hlength
  have hfront : name.rdropWhile isPart ≠ [] := List.ne_nil_of_length_pos (by omega)
  -- the front ends at the last point of the name
  have hpoint : (name.rdropWhile isPart).getLast hfront = CodePoint.ofChar '.' := by
    simpa [isPart] using List.rdropWhile_last_not isPart name hfront
  refine ⟨(name.rdropWhile isPart).dropLast, List.ne_nil_of_length_pos ?_, ?_⟩
  · rw [List.length_dropLast]
    omega
  · have hlast := List.dropLast_append_getLast hfront
    rw [hpoint] at hlast
    rw [List.append_cons, hlast]
    exact hsplit.symm

/-- What stands behind the last point of a name is its suffix, unless nothing stands on one of its
sides. -/
theorem suffixOf_append (hstem : stem ≠ []) (hne : extension ≠ [])
    (hextension : CodePoint.ofChar '.' ∉ extension) :
    suffixOf (stem ++ CodePoint.ofChar '.' :: extension) = CodePoint.ofChar '.' :: extension := by
  have htake : Text.takeRightWhile (fun c : CodePoint => c ≠ '.')
      (stem ++ CodePoint.ofChar '.' :: extension) = extension := by
    refine Text.takeRightWhile_append_cons (by simp) fun d hd => decide_eq_true ?_
    rintro rfl
    exact hextension hd
  have hlength := List.length_pos_of_ne_nil hstem
  have hlong : ¬(extension = [] ∨
      (stem ++ CodePoint.ofChar '.' :: extension).length ≤ extension.length + 1) := by
    rw [not_or, List.length_append, List.length_cons]
    exact ⟨hne, by omega⟩
  rw [suffixOf, htake, if_neg hlong]

/-- In letters of any case, a suffix starts with its point. -/
theorem exists_extension {suffix word : Text} (h : suffix.toLower = CodePoint.ofChar '.' :: word) :
    ∃ extension : Text, suffix = CodePoint.ofChar '.' :: extension ∧ extension.toLower = word := by
  cases suffix with
  | nil => cases h
  | cons c extension =>
    obtain ⟨hc, hword⟩ := List.cons.inj h
    exact ⟨extension, by rw [Markup.eq_of_toAsciiLower_eq (by decide) hc], hword⟩

/-- A suffix without another point is found whatever stands in front of it. -/
theorem toLower_suffixOf_append {suffix word : Text} (hstem : stem ≠ [])
    (h : suffix.toLower = CodePoint.ofChar '.' :: word) (hne : word ≠ [])
    (hword : CodePoint.ofChar '.' ∉ word) :
    (suffixOf (stem ++ suffix)).toLower = CodePoint.ofChar '.' :: word := by
  obtain ⟨extension, rfl, hlower⟩ := exists_extension h
  have hpoint : CodePoint.ofChar '.' ∉ extension := fun hmem =>
    hword (hlower ▸ List.mem_map_of_mem (f := CodePoint.toAsciiLower) hmem)
  have hextension : extension ≠ [] := by
    rintro rfl
    exact hne hlower.symm
  rwa [suffixOf_append hstem hextension hpoint]

end Path

/-- The name of the file ends in the suffix of a component, in letters of any case, with something
in front of it. -/
def IsComponentFile (path : Text) : Prop :=
  ∃ stem suffix : Text, (Path.ofText path).name = stem ++ suffix ∧ stem ≠ [] ∧
    (suffix.toLower = ".jsx" ∨ suffix.toLower = ".tsx")

theorem ofPath_eq_component_iff {path : Text} :
    FileKind.ofPath path = .component ↔ IsComponentFile path := by
  have hkind : FileKind.ofPath path = .component ↔
      (Path.ofText path).suffix.toLower = ".jsx" ∨ (Path.ofText path).suffix.toLower = ".tsx" := by
    have hlookup : FileKind.ofPath path = .component ↔
        FileKind.suffixes.lookup (Path.ofText path).suffix.toLower = some .component := by
      rw [FileKind.ofPath]
      cases FileKind.suffixes.lookup (Path.ofText path).suffix.toLower <;> simp
    rw [hlookup, Keyed.lookup_eq_some_iff (by decide)]
    simp [FileKind.suffixes]
  rw [hkind, Path.suffix, IsComponentFile]
  generalize (Path.ofText path).name = name
  constructor
  · intro h
    have hne : Path.suffixOf name ≠ [] := by
      intro hnil
      rw [hnil] at h
      rcases h with h | h <;> cases h
    obtain ⟨stem, hstem, hname⟩ := Path.exists_stem hne
    exact ⟨stem, _, hname, hstem, h⟩
  · rintro ⟨stem, suffix, rfl, hstem, h⟩
    exact h.imp (fun h => Path.toLower_suffixOf_append hstem h (by decide) (by decide))
      fun h => Path.toLower_suffixOf_append hstem h (by decide) (by decide)

theorem mem_pathsOfKind {path : Text} {paths : List Text} {kind : FileKind} :
    path ∈ pathsOfKind paths kind ↔ path ∈ paths ∧ FileKind.ofPath path = kind := by
  rw [pathsOfKind, Text.mem_sort, List.mem_filter, decide_eq_true_eq]

namespace Document

theorem chunk_eq (files : FileSet) (path : Text) :
    chunk files path = labelLine path ++ "\n" ++ Source.normalize (files.content path) := by
  rw [chunk, label_eq_map, labelLine]
  simp only [List.append_assoc]
  rfl

/-- The bundle is made of the component files, each once and in load order: a line with the path in
a comment, line breaks of the usual kinds made spaces, and the normal source. The line is one line
for the script as well unless the path holds a separator of lines or of paragraphs. -/
theorem bundle_labelled (files : FileSet) :
    ∃ paths : List Text, paths.Nodup ∧
      (∀ path, path ∈ paths ↔ path ∈ files.paths ∧ IsComponentFile path) ∧
      paths.Pairwise Precedes ∧
      bundle files = Text.join "\n\n" (paths.map fun path =>
        labelLine path ++ "\n" ++ Source.normalize (files.content path)) ∧
      ∀ path ∈ paths, IsOneLine (labelLine path) ↔
        CodePoint.ofChar '\u2028' ∉ path ∧ CodePoint.ofChar '\u2029' ∉ path := by
  have hperm := loadOrder_perm (pathsOfKind files.paths .component)
  have hnodup : (pathsOfKind files.paths .component).Nodup :=
    (Text.sort_perm _).nodup_iff.mpr (files.nodup.filter _)
  refine ⟨loadOrder (pathsOfKind files.paths .component), hperm.nodup_iff.mpr hnodup,
    fun path => ?_, pairwise_loadOrder _, ?_, fun path _ => isOneLine_labelLine path⟩
  · rw [hperm.mem_iff, mem_pathsOfKind, ofPath_eq_component_iff]
  · rw [bundle]
    exact congrArg (Text.join "\n\n") (List.map_congr_left fun path _ => chunk_eq files path)

/-- The files of a project with a separator of lines in a path. -/
def splitFiles : FileSet := .ofList [("a\u2028b.jsx", "1")]

/-- Behind a separator of lines, a path is code of the bundle. -/
theorem label_split_splitFiles :
    splitFiles.error? = none ∧ bundle splitFiles = "// --- a\u2028b.jsx ---\n1" ∧
      ¬IsOneLine "// --- a\u2028b.jsx ---" := by
  decide +kernel

end Document

end SitePreview
