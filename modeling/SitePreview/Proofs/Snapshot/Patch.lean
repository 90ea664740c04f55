import SitePreview.Proofs.FileSet.Lookup
import SitePreview.Proofs.Snapshot.CanonicalForm
import SitePreview.Snapshot.Change

/-! Changes as patches. A change set names exactly the paths at which two file sets differ, each
once and under what happened there, so it turns the one into the other and no part of it can be left
out. -/

namespace SitePreview

namespace Text

/-- A list without repetitions is strictly increasing once it is sorted. -/
theorem pairwise_lt_sort {ts : List Text} (h : ts.Nodup) : (sort ts).Pairwise (· < ·) := by
  have hne : (sort ts).Pairwise (· ≠ ·) := (sort_perm ts).nodup_iff.mpr h
  refine ((pairwise_sort ts).and hne).imp ?_
  rintro s t ⟨hle, hne⟩
  exact List.not_le.mp fun hge => hne (List.le_antisymm hle hge)

theorem nodup_of_pairwise_lt {ts : List Text} (h : ts.Pairwise (· < ·)) : ts.Nodup := by
  show ts.Pairwise (· ≠ ·)
  refine h.imp ?_
  rintro s _ hlt rfl
  exact List.lt_irrefl s hlt

/-- Strictly increasing lists with the same members are the same. -/
theorem eq_of_mem_iff {ts us : List Text} (ht : ts.Pairwise (· < ·)) (hu : us.Pairwise (· < ·))
    (h : ∀ t, t ∈ ts ↔ t ∈ us) : ts = us :=
  eq_of_perm_of_pairwise
    ((List.perm_ext_iff_of_nodup (nodup_of_pairwise_lt ht) (nodup_of_pairwise_lt hu)).mpr h)
    (ht.imp List.le_of_lt) (hu.imp List.le_of_lt)

end Text

namespace ChangeSet

variable {old : Option FileSet} {new mid : FileSet} {p : Text}

/-- The files of which the changes are told, none if there are none. -/
def base (old : Option FileSet) : FileSet := old.getD .empty

/-- The path is reported as changed or removed. -/
def Reports (c : ChangeSet) (p : Text) : Prop := p ∈ c.changed ∨ p ∈ c.removed

/-- All lists of paths are strictly increasing. -/
def Increasing (c : ChangeSet) : Prop :=
  c.added.Pairwise (· < ·) ∧ c.modified.Pairwise (· < ·) ∧ c.changed.Pairwise (· < ·) ∧
    c.removed.Pairwise (· < ·)

/-- The files once the removed paths are deleted and every changed path has its new content. -/
def patch (c : ChangeSet) (files new : FileSet) : FileSet :=
  c.changed.foldl (fun files p => files.insert p (new.content p)) (c.removed.foldl .erase files)

section Paths

theorem mem_added : p ∈ (between old new).added ↔ p ∈ new.paths ∧ p ∉ (base old).paths := by
  simp only [between, Text.mem_sort, List.mem_filter, Bool.not_eq_true', ← Bool.not_eq_true,
    FileSet.contains_eq_true_iff, base]

theorem mem_modified : p ∈ (between old new).modified ↔
    p ∈ new.paths ∧ p ∈ (base old).paths ∧ (base old).get? p ≠ new.get? p := by
  simp only [between, Text.mem_sort, List.mem_filter, Bool.and_eq_true,
    FileSet.contains_eq_true_iff, decide_eq_true_eq, base]

theorem mem_removed : p ∈ (between old new).removed ↔ p ∈ (base old).paths ∧ p ∉ new.paths := by
  simp only [between, Text.mem_sort, List.mem_filter, Bool.not_eq_true', ← Bool.not_eq_true,
    FileSet.contains_eq_true_iff, base]

theorem changed_perm (old : Option FileSet) (new : FileSet) :
    (between old new).changed.Perm ((between old new).added ++ (between old new).modified) :=
  Text.sort_perm _

theorem mem_changed :
    p ∈ (between old new).changed ↔ p ∈ new.paths ∧ (base old).get? p ≠ new.get? p := by
  rw [(changed_perm old new).mem_iff, List.mem_append, mem_added, mem_modified]
  constructor
  · rintro (⟨hnew, hold⟩ | ⟨hnew, -, hne⟩)
    · refine ⟨hnew, ?_⟩
      rw [FileSet.get?_eq_none_iff.mpr hold, FileSet.get?_of_mem_paths hnew]
      simp
    · exact ⟨hnew, hne⟩
  · rintro ⟨hnew, hne⟩
    by_cases hold : p ∈ (base old).paths
    · exact .inr ⟨hnew, hold, hne⟩
    · exact .inl ⟨hnew, hold⟩

theorem added_disjoint_modified : (between old new).added.Disjoint (between old new).modified :=
  fun _ hadded hmodified => (mem_added.mp hadded).2 (mem_modified.mp hmodified).2.1

/-- The paths that are reported are those at which the file sets differ. -/
theorem reports_iff : (between old new).Reports p ↔ (base old).get? p ≠ new.get? p := by
  rw [Reports, mem_changed, mem_removed]
  constructor
  · rintro (⟨-, hne⟩ | ⟨hold, hnew⟩)
    · exact hne
    · rw [FileSet.get?_eq_none_iff.mpr hnew, FileSet.get?_of_mem_paths hold]
      simp
  · intro hne
    by_cases hnew : p ∈ new.paths
    · exact .inl ⟨hnew, hne⟩
    · refine .inr ⟨?_, hnew⟩
      by_contra hold
      exact hne ((FileSet.get?_eq_none_iff.mpr hold).trans (FileSet.get?_eq_none_iff.mpr hnew).symm)

end Paths

theorem increasing_between (old : Option FileSet) (new : FileSet) : (between old new).Increasing := by
  have hadded : (new.paths.filter fun p => !(base old).contains p).Nodup := new.nodup.filter _
  have hmodified : (new.paths.filter fun p =>
      (base old).contains p && (base old).get? p ≠ new.get? p).Nodup := new.nodup.filter _
  have hremoved : ((base old).paths.filter fun p => !new.contains p).Nodup :=
    (base old).nodup.filter _
  have hchanged : ((between old new).added ++ (between old new).modified).Nodup :=
    ((Text.sort_perm _).nodup_iff.mpr hadded).append ((Text.sort_perm _).nodup_iff.mpr hmodified)
      added_disjoint_modified
  exact ⟨Text.pairwise_lt_sort hadded, Text.pairwise_lt_sort hmodified,
    Text.pairwise_lt_sort hchanged, Text.pairwise_lt_sort hremoved⟩

section Patching

theorem get?_foldl_erase (ps : List Text) (files : FileSet) (p : Text) :
    (ps.foldl FileSet.erase files).get? p = if p ∈ ps then none else files.get? p := by
  induction ps generalizing files with
  | nil => simp
  | cons q ps ih =>
    rw [List.foldl_cons, ih, FileSet.get?_erase]
    by_cases hps : p ∈ ps <;> by_cases hq : p = q <;> simp [hps, hq]

theorem get?_foldl_insert (ps : List Text) (files new : FileSet) (p : Text) :
    (ps.foldl (fun files p => files.insert p (new.content p)) files).get? p =
      if p ∈ ps then some (new.content p) else files.get? p := by
  induction ps generalizing files with
  | nil => simp
  | cons q ps ih =>
    rw [List.foldl_cons, ih, FileSet.get?_insert]
    by_cases hps : p ∈ ps <;> by_cases hq : p = q <;> simp [hps, hq]

/-- The changes turn the old file set into the new one. -/
theorem patch_between (old : Option FileSet) (new : FileSet) :
    ((between old new).patch (base old) new).SameEntries new := by
  rw [FileSet.sameEntries_iff_get?]
  intro p
  rw [patch, get?_foldl_insert, get?_foldl_erase]
  split
  · next hchanged => exact (FileSet.get?_of_mem_paths (mem_changed.mp hchanged).1).symm
  · next hchanged =>
    split
    · next hremoved => exact (FileSet.get?_eq_none_iff.mpr (mem_removed.mp hremoved).2).symm
    · next hremoved =>
      -- what is not reported is the same on both sides
      by_contra hne
      exact (reports_iff.mpr hne).elim hchanged hremoved

end Patching

theorem isEmpty_iff {c : ChangeSet} : c.isEmpty = true ↔ ∀ p, ¬c.Reports p := by
  simp only [isEmpty, Bool.and_eq_true, List.isEmpty_iff, List.eq_nil_iff_forall_not_mem, Reports,
    not_or, forall_and]

theorem isEmpty_between_iff :
    (between old new).isEmpty = true ↔ ∀ p, (base old).get? p = new.get? p := by
  rw [isEmpty_iff]
  exact forall_congr' fun p => by rw [reports_iff, not_not]

theorem between_swap (old : Option FileSet) (new : FileSet) :
    (between (some new) (base old)).added = (between old new).removed ∧
      (between (some new) (base old)).removed = (between old new).added ∧
      (between (some new) (base old)).modified = (between old new).modified := by
  obtain ⟨hadded, hmodified, -, hremoved⟩ := increasing_between old new
  obtain ⟨hadded', hmodified', -, hremoved'⟩ := increasing_between (some new) (base old)
  refine ⟨Text.eq_of_mem_iff hadded' hremoved fun p => ?_,
    Text.eq_of_mem_iff hremoved' hadded fun p => ?_,
    Text.eq_of_mem_iff hmodified' hmodified fun p => ?_⟩
  · rw [mem_added, mem_removed]
    rfl
  · rw [mem_removed, mem_added]
    rfl
  · rw [mem_modified, mem_modified, ne_comm]
    exact and_left_comm

/-- The changes are an exact account of the step from `files` to `new`: a path is reported once, and
under what happened there, and the changes turn the one into the other. -/
structure Exact (files new : FileSet) (c : ChangeSet) : Prop where
  increasing : c.Increasing
  changed : ∀ p, p ∈ c.changed ↔ p ∈ c.added ∨ p ∈ c.modified
  disjoint : c.added.Disjoint c.modified
  added : ∀ p, p ∈ c.added ↔ files.get? p = none ∧ ∃ y, new.get? p = some y
  modified : ∀ p, p ∈ c.modified ↔ ∃ x y, files.get? p = some x ∧ new.get? p = some y ∧ x ≠ y
  removed : ∀ p, p ∈ c.removed ↔ (∃ x, files.get? p = some x) ∧ new.get? p = none
  patch : (c.patch files new).SameEntries new

theorem exact_between (old : Option FileSet) (new : FileSet) :
    (between old new).Exact (base old) new where
  increasing := increasing_between old new
  changed p := by rw [(changed_perm old new).mem_iff, List.mem_append]
  disjoint := added_disjoint_modified
  added p := by
    rw [mem_added, ← FileSet.get?_eq_none_iff, FileSet.mem_paths]
    exact and_comm
  modified p := by
    rw [mem_modified, FileSet.mem_paths, FileSet.mem_paths]
    constructor
    · rintro ⟨⟨y, hy⟩, ⟨x, hx⟩, hne⟩
      rw [hx, hy] at hne
      exact ⟨x, y, hx, hy, fun hxy => hne (congrArg some hxy)⟩
    · rintro ⟨x, y, hx, hy, hne⟩
      rw [hx, hy]
      exact ⟨⟨y, rfl⟩, ⟨x, rfl⟩, fun hxy => hne (Option.some.inj hxy)⟩
  removed p := by rw [mem_removed, FileSet.mem_paths, ← FileSet.get?_eq_none_iff]
  patch := patch_between old new

/-- Path by path, what differs between two file sets differs on one side of any third one. -/
theorem reports_trans (mid : FileSet) (h : (between old new).Reports p) :
    (between old mid).Reports p ∨ (between (some mid) new).Reports p := by
  rw [reports_iff] at h ⊢
  rw [reports_iff]
  by_contra hsame
  rw [not_or, not_not, not_not] at hsame
  exact h (hsame.1.trans hsame.2)

/-- The changes between two file sets are an exact account of the step from the old one to the new
one. Back again, what was added is removed and the other way round. There are none exactly when the
canonical bytes are the same, and on the way over a third file set no report is lost. -/
theorem between_exact (old : Option FileSet) (new : FileSet) :
    (between old new).Exact (base old) new ∧
      ((between (some new) (base old)).added = (between old new).removed ∧
        (between (some new) (base old)).removed = (between old new).added ∧
        (between (some new) (base old)).modified = (between old new).modified) ∧
      ((base old).IsUtf8 → new.IsUtf8 → ∃ bs cs, (base old).canonicalBytes = .ok bs ∧
        new.canonicalBytes = .ok cs ∧ ((between old new).isEmpty = true ↔ bs = cs)) ∧
      ∀ mid p, (between old new).Reports p →
        (between old mid).Reports p ∨ (between (some mid) new).Reports p := by
  refine ⟨exact_between old new, between_swap old new, fun hold hnew => ?_, fun mid p h =>
    reports_trans mid h⟩
  have hbytes := Text.utf8Bytes_inj (FileSet.isUtf8_canonicalText hold)
    (FileSet.isUtf8_canonicalText hnew)
  exact ⟨_, _, FileSet.canonicalBytes_of_isUtf8 hold, FileSet.canonicalBytes_of_isUtf8 hnew,
    isEmpty_between_iff.trans (hbytes.trans (FileSet.canonicalText_inj hold hnew)).symm⟩

/-- One file is edited, one deleted and one new. -/
theorem between_exact_editedFiles :
    let old := FileSet.ofList [("a", "1"), ("b", "2")]
    let new := FileSet.ofList [("c", "1"), ("a", "3")]
    ((between (some old) new).patch old new).SameEntries new ∧
      ("b" : Text) ∈ (between (some old) new).removed ∧
      ∃ bs cs, old.canonicalBytes = .ok bs ∧ new.canonicalBytes = .ok cs ∧ bs ≠ cs := by
  intro old new
  obtain ⟨hexact, -, hbytes, -⟩ := between_exact (some old) new
  obtain ⟨bs, cs, hbs, hcs, hiff⟩ := hbytes (by decide) (by decide)
  refine ⟨hexact.patch, (hexact.removed "b").mpr ⟨⟨"2", by decide⟩, by decide⟩, bs, cs, hbs, hcs, ?_⟩
  intro heq
  exact absurd (isEmpty_between_iff.mp (hiff.mpr heq) "b") (by decide)

end ChangeSet

end SitePreview
