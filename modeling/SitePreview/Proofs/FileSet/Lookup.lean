import SitePreview.Analysis.Kind
import SitePreview.FileSet
import SitePreview.Proofs.Text.Encoding
import SitePreview.Proofs.Text.Lists

/-! File sets as maps: looking a path up finds exactly the entries, so file sets with the same
look-ups have the same entries up to order, and with them the same counts and the same sorted lists
of paths. A file set of a list has a path where the list names it first, with the content that the
list gives it last. -/

namespace SitePreview.FileSet

variable {a b files : FileSet} {es : List (Text × Text)} {p c : Text}

theorem get?_eq_some_iff : files.get? p = some c ↔ (p, c) ∈ files.entries :=
  Keyed.lookup_eq_some_iff files.nodup

theorem mem_paths : p ∈ files.paths ↔ ∃ c, files.get? p = some c := by
  simp only [paths, List.mem_map, get?_eq_some_iff, Prod.exists, exists_and_right, exists_eq_right]

theorem get?_of_mem_paths (h : p ∈ files.paths) : files.get? p = some (files.content p) := by
  obtain ⟨c, hc⟩ := mem_paths.mp h
  simp [content, hc]

theorem get?_eq_none_iff : files.get? p = none ↔ p ∉ files.paths := by
  rw [mem_paths, Option.eq_none_iff_forall_ne_some, not_exists]

@[simp] theorem contains_eq_true_iff : files.contains p = true ↔ p ∈ files.paths := by
  simp [contains]

theorem mem_sortedPaths : p ∈ files.sortedPaths ↔ p ∈ files.paths := Text.mem_sort

theorem paths_perm_of_get?_eq (h : ∀ p, a.get? p = b.get? p) : a.paths.Perm b.paths :=
  (List.perm_ext_iff_of_nodup a.nodup b.nodup).mpr fun p =>
    mem_paths.trans ((exists_congr fun _ => by rw [h p]).trans mem_paths.symm)

theorem sortedPaths_eq_of_get?_eq (h : ∀ p, a.get? p = b.get? p) :
    a.sortedPaths = b.sortedPaths :=
  Text.sort_eq_of_perm (paths_perm_of_get?_eq h)

/-- Every path and every content can be written in UTF-8. -/
def IsUtf8 (files : FileSet) : Prop := ∀ e ∈ files.entries, e.1.isUtf8 = true ∧ e.2.isUtf8 = true

instance (files : FileSet) : Decidable files.IsUtf8 := List.decidableBAll _ _

theorem IsUtf8.path (h : files.IsUtf8) (hp : p ∈ files.paths) : p.isUtf8 = true :=
  (h _ (get?_eq_some_iff.mp (get?_of_mem_paths hp))).1

theorem IsUtf8.content (h : files.IsUtf8) (hp : p ∈ files.paths) :
    (files.content p).isUtf8 = true :=
  (h _ (get?_eq_some_iff.mp (get?_of_mem_paths hp))).2

/-- The entries are the same, in whatever order they came in. -/
def SameEntries (a b : FileSet) : Prop := a.entries.Perm b.entries

instance (a b : FileSet) : Decidable (a.SameEntries b) := inferInstanceAs (Decidable (List.Perm _ _))

theorem sameEntries_iff_get? : a.SameEntries b ↔ ∀ p, a.get? p = b.get? p := by
  have hsame : a.SameEntries b ↔ ∀ e, e ∈ a.entries ↔ e ∈ b.entries :=
    List.perm_ext_iff_of_nodup (.of_map _ a.nodup) (.of_map _ b.nodup)
  rw [hsame]
  constructor
  · intro h p
    ext c
    rw [get?_eq_some_iff, get?_eq_some_iff, h]
  · intro h e
    rw [← get?_eq_some_iff, ← get?_eq_some_iff, h]

namespace SameEntries

theorem get?_eq (h : a.SameEntries b) (p : Text) : a.get? p = b.get? p :=
  sameEntries_iff_get?.mp h p

theorem content_eq (h : a.SameEntries b) : a.content = b.content :=
  funext fun p => by rw [content, content, h.get?_eq]

theorem paths_perm (h : a.SameEntries b) : a.paths.Perm b.paths := List.Perm.map Prod.fst h

theorem contents_perm (h : a.SameEntries b) : a.contents.Perm b.contents := List.Perm.map Prod.snd h

theorem size_eq (h : a.SameEntries b) : a.size = b.size := List.Perm.length_eq h

theorem contains_eq (h : a.SameEntries b) : a.contains = b.contains :=
  funext fun _ => h.paths_perm.contains_eq

theorem sortedPaths_eq (h : a.SameEntries b) : a.sortedPaths = b.sortedPaths :=
  Text.sort_eq_of_perm h.paths_perm

theorem pathsOfKind_eq (h : a.SameEntries b) (kind : FileKind) :
    pathsOfKind a.paths kind = pathsOfKind b.paths kind :=
  Text.sort_eq_of_perm (h.paths_perm.filter _)

/-- The sorted choice of paths is the same, if the paths are chosen alike. -/
theorem sort_filter_paths_eq (h : a.SameEntries b) (p : Text → Bool) :
    Text.sort (a.paths.filter p) = Text.sort (b.paths.filter p) :=
  Text.sort_eq_of_perm (h.paths_perm.filter p)

end SameEntries

theorem paths_insert (files : FileSet) (path content : Text) :
    (files.insert path content).paths =
      if path ∈ files.paths then files.paths else files.paths ++ [path] :=
  fst_setEntry path content files.entries

theorem paths_ofList (es : List (Text × Text)) :
    (ofList es).paths = Text.distinct (es.map Prod.fst) := by
  -- the paths so far are those seen so far, the first one last
  have hfold (files : FileSet) (seen : List Text) (hseen : files.paths = seen.reverse) :
      (es.foldl (fun files e => files.insert e.1 e.2) files).paths =
        ((es.map Prod.fst).foldl (fun seen t => if seen.contains t then seen else t :: seen)
          seen).reverse := by
    induction es generalizing files seen with
    | nil => exact hseen
    | cons e es ih =>
      refine ih (files.insert e.1 e.2) _ ?_
      simp only [paths_insert, hseen, List.mem_reverse, List.contains_iff_mem]
      split <;> simp
  exact hfold empty [] rfl

theorem get?_ofList (es : List (Text × Text)) (path : Text) :
    (ofList es).get? path = es.reverse.lookup path := by
  have hfold (files : FileSet) : (es.foldl (fun files e => files.insert e.1 e.2) files).get? path =
      (es.reverse.lookup path).or (files.get? path) := by
    induction es generalizing files with
    | nil => rfl
    | cons e es ih =>
      rw [List.foldl_cons, ih, get?_insert, List.reverse_cons, List.lookup_append, Option.or_assoc,
        Keyed.lookup_cons]
      by_cases hpath : path = e.1 <;> simp [hpath]
  rw [ofList, hfold, get?_empty, Option.or_none]

theorem mem_of_mem_ofList {e : Text × Text} (h : e ∈ (ofList es).entries) : e ∈ es := by
  have hget : (ofList es).get? e.1 = some e.2 := get?_eq_some_iff.mpr h
  rw [get?_ofList] at hget
  exact List.mem_reverse.mp (Keyed.mem_of_lookup_eq_some hget)

theorem eq_empty_of_size (h : files.size = 0) : files = empty := by
  obtain ⟨entries, hnodup⟩ := files
  obtain rfl := List.eq_nil_of_length_eq_zero h
  rfl

theorem size_ofList_ne_zero (h : es ≠ []) : (ofList es).size ≠ 0 := by
  obtain ⟨front, e, rfl⟩ := (List.eq_nil_or_concat es).resolve_left h
  rw [ofList, List.concat_eq_append, List.foldl_append, List.foldl_cons, List.foldl_nil]
  generalize front.foldl (fun files e => files.insert e.1 e.2) empty = files
  have hpaths : (files.insert e.1 e.2).paths ≠ [] := by
    rw [paths_insert]
    split
    · next hmem => exact List.ne_nil_of_mem hmem
    · simp
  intro hsize
  exact hpaths (by rw [paths, List.eq_nil_of_length_eq_zero hsize, List.map_nil])

end SitePreview.FileSet
