import SitePreview.Trail.VersionRecord
import Mathlib.Data.List.Nodup

/-! The rows of the version table stand in the order in which they were appended, for numbers grow
from row to row although a removal may lower the largest one. So all records of a project, oldest
first, are its rows as they stand. -/

namespace SitePreview.VersionTable

variable {t : VersionTable} {r : VersionRecord} {project : Text}

/-- The numbers of the rows grow from row to row. -/
def Ascending (t : VersionTable) : Prop := (t.rows.map Prod.fst).Pairwise (· < ·)

theorem lt_nextId {n : Nat} (h : n ∈ t.rows.map Prod.fst) : n < t.nextId := by
  rw [nextId]
  generalize t.rows.map Prod.fst = ns at h
  induction ns with
  | nil => nomatch h
  | cons k ns ih =>
    rw [List.foldr_cons]
    rcases List.mem_cons.mp h with rfl | h
    · omega
    · have := ih h
      omega

theorem Ascending.append (h : t.Ascending) (r : VersionRecord) : (t.append r).Ascending := by
  rw [Ascending, VersionTable.append, List.map_append, List.pairwise_append]
  refine ⟨h, List.pairwise_singleton _ _, fun n hn k hk => ?_⟩
  rw [List.mem_singleton.mp hk]
  exact lt_nextId hn

theorem Ascending.erase (h : t.Ascending) (project : Text) : (t.erase project).Ascending :=
  List.Pairwise.sublist (List.filter_sublist.map Prod.fst) h

theorem Ascending.eq_of_fst_eq (h : t.Ascending) {a b : Nat × VersionRecord} (ha : a ∈ t.rows)
    (hb : b ∈ t.rows) (hab : a.1 = b.1) : a = b :=
  List.inj_on_of_nodup_map (h.imp Nat.ne_of_lt) ha hb hab

/-- The rows of a project stand from the oldest to the newest. -/
theorem newestFirst_eq_reverse (h : t.Ascending) (project : Text) :
    t.newestFirst project = (t.rows.filter fun row => row.2.projectId = project).reverse := by
  rw [newestFirst]
  generalize hrows : (t.rows.filter fun row => row.2.projectId = project) = rows
  have hmem {row : Nat × VersionRecord} (hrow : row ∈ rows) : row ∈ t.rows :=
    List.mem_of_mem_filter (hrows ▸ hrow)
  have hfalling : rows.reverse.Pairwise fun a b => decide (b.1 ≤ a.1) = true := by
    rw [List.pairwise_reverse, ← hrows]
    exact ((List.pairwise_map.mp h).sublist List.filter_sublist).imp fun hlt =>
      decide_eq_true (Nat.le_of_lt hlt)
  have hsorted : (rows.mergeSort fun a b => decide (b.1 ≤ a.1)).Pairwise
      fun a b => decide (b.1 ≤ a.1) = true := by
    apply List.pairwise_mergeSort
    · intro a b c hab hbc
      exact decide_eq_true (Nat.le_trans (of_decide_eq_true hbc) (of_decide_eq_true hab))
    · intro a b
      simpa using Nat.le_total b.1 a.1
  refine ((List.mergeSort_perm rows _).trans rows.reverse_perm.symm).eq_of_pairwise ?_ hsorted
    hfalling
  intro a b ha hb hab hba
  exact h.eq_of_fst_eq (hmem (List.mem_mergeSort.mp ha)) (hmem (List.mem_reverse.mp hb))
    (Nat.le_antisymm (of_decide_eq_true hba) (of_decide_eq_true hab))

/-- All records of a project that the store lists, the oldest first. -/
def trail (t : VersionTable) (project : Text) : List VersionRecord :=
  (t.recent project (-1)).reverse

theorem trail_eq (h : t.Ascending) (project : Text) :
    t.trail project = (t.rows.filter fun row => row.2.projectId = project).map Prod.snd := by
  rw [trail, recent, if_pos (by decide), newestFirst_eq_reverse h, List.map_reverse,
    List.reverse_reverse]

theorem trail_append (h : t.Ascending) (r : VersionRecord) (project : Text) :
    (t.append r).trail project =
      if r.projectId = project then t.trail project ++ [stored t.nextId r]
      else t.trail project := by
  rw [trail_eq (h.append r), trail_eq h, append, List.filter_append, List.map_append]
  split
  · next hr => simp [stored, hr]
  · next hr => simp [stored, hr]

theorem trail_erase (h : t.Ascending) (removed project : Text) :
    (t.erase removed).trail project = if removed = project then [] else t.trail project := by
  rw [trail_eq (h.erase removed), trail_eq h, erase, List.filter_filter]
  split
  · next hr => simp [hr]
  · next hr =>
    refine congrArg (List.map Prod.snd) (List.filter_congr fun row _ => ?_)
    by_cases hrow : row.2.projectId = project
    · simp [hrow, Ne.symm hr]
    · simp [hrow]

end SitePreview.VersionTable
