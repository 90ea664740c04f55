import Mathlib.Data.List.Sort
import SitePreview.Text.Basic

/-! Lists of texts, sorted or without repetitions. Sorting lists each text as often as before, each
not greater than the next, and depends on nothing else: lists of the same texts are sorted to the
same list. Without repetitions each text stands where it appears first: it has appeared before those
that stand behind it do, and repetitions within parts of a list may be dropped first. -/

namespace SitePreview.Text

section Order

theorem le_trans {s t u : Text} (h1 : s ≤ t) (h2 : t ≤ u) : s ≤ u := by
  let _ : LE CodePoint := ⟨fun a b => a.val ≤ b.val⟩
  have : Std.IsLinearOrder CodePoint :=
    { le_refl := fun a => Nat.le_refl a.val
      le_trans := fun _ _ _ => Nat.le_trans
      le_antisymm := fun _ _ h k => CodePoint.ext (Nat.le_antisymm h k)
      le_total := fun a b => Nat.le_total a.val b.val }
  have : Std.LawfulOrderLT CodePoint := ⟨fun _ _ => Nat.lt_iff_le_and_not_ge⟩
  exact List.le_trans h1 h2

theorem sort_perm (ts : List Text) : (sort ts).Perm ts := List.mergeSort_perm ts _

@[simp] theorem mem_sort {t : Text} {ts : List Text} : t ∈ sort ts ↔ t ∈ ts :=
  (sort_perm ts).mem_iff

theorem pairwise_sort (ts : List Text) : (sort ts).Pairwise (· ≤ ·) := by
  have htrans (a b c : Text) (hab : decide (a ≤ b) = true) (hbc : decide (b ≤ c) = true) :
      decide (a ≤ c) = true :=
    decide_eq_true (le_trans (of_decide_eq_true hab) (of_decide_eq_true hbc))
  have htotal (a b : Text) : (decide (a ≤ b) || decide (b ≤ a)) = true := by
    simpa using List.le_total a b
  exact (List.pairwise_mergeSort htrans htotal ts).imp of_decide_eq_true

/-- A sorted list is the only sorted one of its texts. -/
theorem eq_of_perm_of_pairwise {ts us : List Text} (hp : ts.Perm us) (ht : ts.Pairwise (· ≤ ·))
    (hu : us.Pairwise (· ≤ ·)) : ts = us :=
  hp.eq_of_pairwise (fun _ _ _ _ h1 h2 => List.le_antisymm h1 h2) ht hu

theorem sort_eq_of_perm {ts us : List Text} (h : ts.Perm us) : sort ts = sort us :=
  eq_of_perm_of_pairwise (((sort_perm ts).trans h).trans (sort_perm us).symm) (pairwise_sort ts)
    (pairwise_sort us)

end Order

section Distinct

variable {t u : Text} {ts : List Text}

theorem distinct_eq_eraseDups (ts : List Text) : distinct ts = ts.eraseDups := by
  have hloop (seen : List Text) :
      (ts.foldl (fun seen t => if seen.contains t then seen else t :: seen) seen).reverse =
        List.eraseDupsBy.loop (· == ·) ts seen := by
    induction ts generalizing seen with
    | nil => rfl
    | cons t ts ih =>
      rw [List.foldl_cons, ih, List.eraseDupsBy.loop, List.contains_eq_any_beq]
      cases seen.any (t == ·) <;> rfl
  exact hloop []

theorem distinct_cons (t : Text) (ts : List Text) :
    distinct (t :: ts) = t :: distinct (ts.filter fun u => u ≠ t) := by
  have hne : (fun u => !u == t) = fun u => decide (u ≠ t) := by
    funext u
    by_cases h : u = t <;> simp [h]
  rw [distinct_eq_eraseDups, distinct_eq_eraseDups, List.eraseDups_cons, hne]

@[simp] theorem mem_distinct : t ∈ distinct ts ↔ t ∈ ts := by
  rw [distinct_eq_eraseDups, List.mem_eraseDups]

/-- What a list inherits from its rest without the first text holds of all lists. -/
theorem distinct_induction {motive : List Text → Prop} (nil : motive [])
    (cons : ∀ t ts, motive (ts.filter fun u => u ≠ t) → motive (t :: ts)) :
    (ts : List Text) → motive ts
  | [] => nil
  | t :: ts => cons t ts (distinct_induction nil cons (ts.filter fun u => u ≠ t))
termination_by ts => ts.length
decreasing_by exact Nat.lt_succ_of_le (List.length_filter_le _ ts)

theorem nodup_distinct (ts : List Text) : (distinct ts).Nodup := by
  induction ts using distinct_induction with
  | nil => exact List.nodup_nil
  | cons t ts ih =>
    rw [distinct_cons, List.nodup_cons]
    exact ⟨by simp, ih⟩

theorem distinct_of_nodup (h : ts.Nodup) : distinct ts = ts := by
  induction ts with
  | nil => rfl
  | cons t ts ih =>
    rw [List.nodup_cons] at h
    have hfilter : ts.filter (fun u => u ≠ t) = ts :=
      List.filter_eq_self.mpr fun u hu => decide_eq_true fun heq => h.1 (heq ▸ hu)
    rw [distinct_cons, hfilter, ih h.2]

/-- A text has appeared before any text that stands behind it appears. -/
theorem pairwise_distinct (ts : List Text) :
    (distinct ts).Pairwise fun t u => ∀ front back, ts = front ++ u :: back → t ∈ front := by
  induction ts using distinct_induction with
  | nil => exact List.Pairwise.nil
  | cons t ts ih =>
    have hother {u : Text} (hu : u ∈ distinct (ts.filter fun u => u ≠ t)) : u ≠ t := by
      simpa using (List.mem_filter.mp (mem_distinct.mp hu)).2
    -- a text other than the first one appears behind it
    have hbehind {u : Text} {front back : List Text} (hu : u ≠ t)
        (h : t :: ts = front ++ u :: back) : ∃ front', front = t :: front' ∧
          ts = front' ++ u :: back := by
      cases front with
      | nil => exact absurd (List.cons.inj h).1.symm hu
      | cons v front =>
        obtain ⟨rfl, hts⟩ := List.cons.inj h
        exact ⟨front, rfl, hts⟩
    rw [distinct_cons, List.pairwise_cons]
    constructor
    · intro u hu front back h
      obtain ⟨front', rfl, -⟩ := hbehind (hother hu) h
      exact List.mem_cons_self
    · refine ih.imp_of_mem fun {v u} _ hu hfirst front back h => ?_
      have hne := hother hu
      obtain ⟨front', rfl, rfl⟩ := hbehind hne h
      have hsplit : (front' ++ u :: back).filter (fun w => w ≠ t) =
          front'.filter (fun w => w ≠ t) ++ u :: back.filter (fun w => w ≠ t) := by
        rw [List.filter_append, List.filter_cons, if_pos (decide_eq_true hne)]
      exact List.mem_cons_of_mem t (List.mem_filter.mp (hfirst _ _ hsplit)).1

theorem distinct_filter (p : Text → Bool) (ts : List Text) :
    distinct (ts.filter p) = (distinct ts).filter p := by
  induction ts using distinct_induction with
  | nil => rfl
  | cons t ts ih =>
    rw [distinct_cons, List.filter_cons, List.filter_cons, ← ih]
    split
    · rw [distinct_cons, List.filter_filter, List.filter_filter]
      simp only [Bool.and_comm]
    · next hp =>
      -- the first text is not among those that stay
      have hstay : ts.filter p = (ts.filter fun u => u ≠ t).filter p := by
        rw [List.filter_filter]
        refine List.filter_congr fun u _ => ?_
        by_cases hu : u = t <;> simp [hu, hp]
      rw [hstay]

theorem distinct_append (ts us : List Text) :
    distinct (ts ++ us) = distinct ts ++ (distinct us).filter fun u => !ts.contains u := by
  rw [← distinct_filter]
  simp only [distinct_eq_eraseDups, List.eraseDups_append]
  rfl

theorem distinct_flatMap_distinct {α : Type} (f : α → List Text) (as : List α) :
    distinct (as.flatMap fun a => distinct (f a)) = distinct (as.flatMap f) := by
  induction as with
  | nil => rfl
  | cons a as ih =>
    have hcontains : (distinct (f a)).contains = (f a).contains := funext fun u => by
      rw [Bool.eq_iff_iff, List.contains_iff_mem, List.contains_iff_mem, mem_distinct]
    rw [List.flatMap_cons, List.flatMap_cons, distinct_append, distinct_append, ih, hcontains,
      distinct_of_nodup (nodup_distinct _)]

end Distinct

end SitePreview.Text
