import Mathlib.Data.List.SplitBy
import SitePreview.Proofs.Source.BlankLines

/-! The blank line pass as a function on lines. The lines of a text are what stands between its line
feeds. As long as one of them is not blank, the blank ones at either end are dropped and each longer
run of blank ones becomes one empty line; otherwise the last line is left. -/

namespace SitePreview.Source

open Text CodePoint

/-- Both lines are blank, or neither is. -/
def sameKind (l m : Text) : Bool := isBlankLine l == isBlankLine m

/-- The longest runs of lines of one kind. -/
def lineRuns (ls : List Text) : List (List Text) := ls.splitBy sameKind

/-- Two or more blank lines become one empty line; any other run stays. -/
def mergedRun (run : List Text) : List Text :=
  if 2 ≤ run.length ∧ ∀ l ∈ run, isBlankLine l = true then [[]] else run

/-- The lines without the blank ones at either end and with their runs merged, or the last line
when all are blank. -/
def collapseLines (ls : List Text) : List Text :=
  if ∀ l ∈ ls, isBlankLine l = true then ls.getLast?.toList
  else (lineRuns ((ls.dropWhile isBlankLine).rdropWhile isBlankLine)).flatMap mergedRun

variable {ls run : List Text} {l last : Text}

section Runs

theorem mergeRuns_append_of_not_blank (h : ∀ l ∈ run, ¬isBlankLine l = true) (ls : List Text) :
    mergeRuns (run ++ ls) = run ++ mergeRuns ls := by
  induction run with
  | nil => rfl
  | cons l run ih =>
    rw [List.forall_mem_cons] at h
    rw [List.cons_append, mergeRuns_cons_of_not_blank h.1, ih h.2, List.cons_append]

/-- A run of blank lines in front of a line that is not blank is merged on its own. -/
theorem mergeRuns_append_of_blank (hne : run ≠ []) (h : ∀ l ∈ run, isBlankLine l = true)
    (hls : ls.takeWhile isBlankLine = []) :
    mergeRuns (run ++ ls) = mergedRun run ++ mergeRuns ls := by
  have htake : (run ++ ls).takeWhile isBlankLine = run := by
    rw [List.takeWhile_append_of_pos h, hls, List.append_nil]
  have hdrop : (run ++ ls).dropWhile isBlankLine = ls := by
    have := List.takeWhile_append_dropWhile (p := isBlankLine) (l := run ++ ls)
    rwa [htake, List.append_cancel_left_eq] at this
  by_cases hlen : 2 ≤ run.length
  · rw [mergeRuns_of_run (by rwa [htake]), hdrop, mergedRun, if_pos ⟨hlen, h⟩]
    rfl
  · obtain ⟨l, rfl⟩ : ∃ l, run = [l] := by
      have := List.length_pos_iff.mpr hne
      exact List.length_eq_one_iff.mp (by omega)
    rw [mergedRun, if_neg fun hrun => hlen hrun.1]
    exact mergeRuns_cons_of_takeWhile_eq_nil hls

theorem isBlankLine_eq_of_isChain (h : (l :: run).IsChain fun l m => sameKind l m = true) :
    ∀ m ∈ run, isBlankLine m = isBlankLine l := by
  induction run generalizing l with
  | nil => simp
  | cons k run ih =>
    obtain ⟨hk, hrun⟩ := List.isChain_cons_cons.mp h
    have hkl : isBlankLine k = isBlankLine l := (beq_iff_eq.mp hk).symm
    rw [List.forall_mem_cons]
    exact ⟨hkl, fun m hm => (ih hrun m hm).trans hkl⟩

/-- Runs that cannot be made longer are merged one by one. -/
theorem mergeRuns_flatten {runs : List (List Text)} (hne : [] ∉ runs)
    (hruns : ∀ run ∈ runs, run.IsChain fun l m => sameKind l m = true)
    (hends : runs.IsChain fun a b => ∃ ha hb, sameKind (a.getLast ha) (b.head hb) = false) :
    mergeRuns runs.flatten = runs.flatMap mergedRun := by
  induction runs with
  | nil => rfl
  | cons run runs ih =>
    rw [List.forall_mem_cons] at hruns
    rw [List.mem_cons, not_or] at hne
    rw [List.flatten_cons, List.flatMap_cons, ← ih hne.2 hruns.2 hends.tail]
    obtain ⟨l, run, rfl⟩ := List.exists_cons_of_ne_nil (Ne.symm hne.1)
    have hkind := isBlankLine_eq_of_isChain hruns.1
    by_cases hl : isBlankLine l = true
    · have hblank : ∀ m ∈ l :: run, isBlankLine m = true :=
        List.forall_mem_cons.mpr ⟨hl, fun m hm => (hkind m hm).trans hl⟩
      refine mergeRuns_append_of_blank (List.cons_ne_nil l run) hblank ?_
      cases runs with
      | nil => rfl
      | cons next runs =>
        -- the next run starts with a line of the other kind
        obtain ⟨hlast, hhead, hother⟩ := (List.isChain_cons_cons.mp hends).1
        obtain ⟨m, next, rfl⟩ := List.exists_cons_of_ne_nil hhead
        rw [sameKind, hblank _ (List.getLast_mem hlast), List.head_cons] at hother
        have hm : ¬isBlankLine m = true := by simpa using hother
        simp [hm]
    · have hnot : ∀ m ∈ l :: run, ¬isBlankLine m = true := by
        rw [List.forall_mem_cons]
        exact ⟨hl, fun m hm => by rwa [hkind m hm]⟩
      rw [mergeRuns_append_of_not_blank hnot, mergedRun,
        if_neg fun hrun => hl (hrun.2 l List.mem_cons_self)]

/-- Merging from line to line is merging by runs. -/
theorem mergeRuns_eq_flatMap (ls : List Text) :
    mergeRuns ls = (lineRuns ls).flatMap mergedRun := by
  have h : mergeRuns (lineRuns ls).flatten = (lineRuns ls).flatMap mergedRun :=
    mergeRuns_flatten (List.nil_notMem_splitBy _ ls)
      (fun _ hrun => List.isChain_of_mem_splitBy hrun) (List.isChain_getLast_head_splitBy _ ls)
  rwa [lineRuns, List.flatten_splitBy] at h

end Runs

section Trimming

/-- Merging goes on anew behind a line that is not blank. -/
theorem mergeRuns_append_cons (hl : ¬isBlankLine l = true) (ls ms : List Text) :
    mergeRuns (ls ++ l :: ms) = mergeRuns ls ++ l :: mergeRuns ms := by
  induction ls with
  | nil => exact mergeRuns_cons_of_not_blank hl
  | cons k ls ih =>
    rw [List.cons_append, mergeRuns, ih, mergeRuns]
    cases mergeRuns ls with
    | nil => simp [hl]
    | cons m ms =>
      simp only [List.cons_append]
      split <;> rfl

/-- Merging commutes with dropping the blank lines at the end. -/
theorem rdropWhile_mergeRuns (ls : List Text) :
    (mergeRuns ls).rdropWhile isBlankLine = mergeRuns (ls.rdropWhile isBlankLine) := by
  have hsplit := List.rdropWhile_append_rtakeWhile (p := isBlankLine) (l := ls)
  have hmerged : ∀ l ∈ mergeRuns (ls.rtakeWhile isBlankLine), isBlankLine l = true := by
    intro l hl
    rcases mem_mergeRuns hl with rfl | hl
    · exact isBlankLine_nil
    · exact List.mem_rtakeWhile_imp hl
  have hend := List.rdropWhile_last_not isBlankLine ls
  -- a line that is not blank keeps the two parts from being merged with each other
  rcases List.eq_nil_or_concat' (ls.rdropWhile isBlankLine) with hnil | ⟨ms, l, hms⟩
  · rw [hnil, List.nil_append] at hsplit
    rw [hsplit] at hmerged
    rw [hnil]
    exact List.rdropWhile_eq_nil_iff.mpr hmerged
  · have hl : ¬isBlankLine l = true := by simpa [hms] using hend
    have hls : ls = ms ++ l :: ls.rtakeWhile isBlankLine := by
      rw [List.append_cons, ← hms, hsplit]
    generalize ls.rtakeWhile isBlankLine = blanks at hmerged hls
    calc (mergeRuns ls).rdropWhile isBlankLine
        = (mergeRuns ms ++ [l] ++ mergeRuns blanks).rdropWhile isBlankLine := by
          rw [hls, mergeRuns_append_cons hl, List.append_cons]
      _ = (mergeRuns ms ++ [l]).rdropWhile isBlankLine := rdropWhile_append_of_all hmerged _
      _ = mergeRuns ms ++ [l] := List.rdropWhile_concat_neg _ _ _ hl
      _ = mergeRuns (ls.rdropWhile isBlankLine) := by
          rw [hms, mergeRuns_append_cons hl]
          rfl

/-- The last line is not merged with those in front of it, which makes no difference once the blank
lines at the end are gone. -/
theorem rdropWhile_mergeRuns_concat (ls : List Text) (last : Text) :
    (mergeRuns ls ++ [last]).rdropWhile isBlankLine =
      mergeRuns ((ls ++ [last]).rdropWhile isBlankLine) := by
  by_cases hlast : isBlankLine last = true
  · rw [List.rdropWhile_concat_pos _ _ _ hlast, List.rdropWhile_concat_pos _ _ _ hlast,
      rdropWhile_mergeRuns]
  · rw [List.rdropWhile_concat_neg _ _ _ hlast, List.rdropWhile_concat_neg _ _ _ hlast,
      mergeRuns_append_cons hlast]
    rfl

end Trimming

section Lines

theorem collapseLines_of_blank (h : ∀ l ∈ ls ++ [last], isBlankLine l = true) :
    collapseLines (ls ++ [last]) = [last] := by
  rw [collapseLines, if_pos h, List.getLast?_concat]
  rfl

theorem collapseLines_of_not_blank (h : ∃ l ∈ ls, ¬isBlankLine l = true) :
    collapseLines ls = mergeRuns ((ls.dropWhile isBlankLine).rdropWhile isBlankLine) := by
  rw [collapseLines, if_neg (by simpa using h), mergeRuns_eq_flatMap]

theorem collapseLines_noBlankPair (ls : List Text) : NoBlankPair (collapseLines ls) := by
  by_cases h : ∃ l ∈ ls, ¬isBlankLine l = true
  · rw [collapseLines_of_not_blank h]
    exact mergeRuns_noBlankPair _
  · rw [collapseLines, if_pos (by simpa using h)]
    cases ls.getLast? with
    | none => exact List.IsChain.nil
    | some last => exact List.IsChain.singleton last

/-- The pass on a text is the one on its lines. -/
theorem splitOn_collapseBlankLines (s : Text) :
    splitOn '\n' (collapseBlankLines s) = collapseLines (splitOn '\n' s) := by
  obtain ⟨ls, last, rfl, hls, hlast⟩ := exists_unlines s
  rw [splitOn_unlines hls hlast]
  by_cases h : ∃ l ∈ ls ++ [last], ¬isBlankLine l = true
  · obtain ⟨ms, m, hcollapse, hfeed, hm, hms⟩ := exists_unlines_collapseBlankLines hls hlast h
    rw [hcollapse, splitOn_unlines hfeed hm, hms, collapseLines_of_not_blank h,
      dropWhile_concat_of_not_blank h, rdropWhile_mergeRuns_concat]
  · have hblank : ∀ l ∈ ls ++ [last], isBlankLine l = true :=
      fun l hl => by_contra fun hb => h ⟨l, hl, hb⟩
    rw [collapseBlankLines_of_blank hls hlast hblank, collapseLines_of_blank hblank,
      splitOn_of_not_mem hlast]

/-- The pass collapses the lines of a text, which leaves nothing for a second pass to do and no two
blank lines in a row. -/
theorem collapseBlankLines_linewise (s : Text) :
    splitOn '\n' (Pass.blankLines.run s) = collapseLines (splitOn '\n' s) ∧
      Pass.blankLines.run (Pass.blankLines.run s) = Pass.blankLines.run s ∧
      NoBlankPair (splitOn '\n' (Pass.blankLines.run s)) := by
  have hlines : splitOn '\n' (Pass.blankLines.run s) = collapseLines (splitOn '\n' s) :=
    splitOn_collapseBlankLines s
  refine ⟨hlines, collapseBlankLines_idem s, ?_⟩
  rw [hlines]
  exact collapseLines_noBlankPair _

/-- A single blank line stays as it is, and of blank lines alone the last one stays. -/
example : collapseBlankLines "\n a\n \t\n\n b\n\t\nc\n \n" = ofString " a\n\n b\n\t\nc" ∧
    collapseBlankLines "\n \n\t" = ofString "\t" := ⟨by cbv, by cbv⟩

end Lines

end SitePreview.Source
