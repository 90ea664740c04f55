import Mathlib.Data.List.Chain
import Mathlib.Data.List.DropRight
import SitePreview.Proofs.Text.Parts
import SitePreview.Source.Normal

/-! The blank line pass on lines. It drops the blank lines at either end and makes each longer run
of them one empty line, so a second pass finds nothing to do. -/

namespace SitePreview.Source

open Text CodePoint

/-- The line holds spaces and tabs only. -/
def isBlankLine (l : Text) : Bool := l.all isInlineBlank

/-- Every two or more blank lines in a row become one empty line. -/
def mergeRuns : List Text → List Text
  | [] => []
  | l :: ls =>
    match mergeRuns ls with
    | [] => [l]
    | m :: ms => if isBlankLine l && isBlankLine m then [] :: ms else l :: m :: ms

/-- No two lines in a row are blank. -/
def NoBlankPair (ls : List Text) : Prop :=
  ls.IsChain fun l m => ¬(isBlankLine l = true ∧ isBlankLine m = true)

variable {ls : List Text} {l last u : Text}

section Merge

theorem mergeRuns_cons_cases (l : Text) (ls : List Text) :
    (mergeRuns ls = [] ∧ mergeRuns (l :: ls) = [l]) ∨
    ∃ m ms, mergeRuns ls = m :: ms ∧
      ((isBlankLine l = true ∧ isBlankLine m = true ∧ mergeRuns (l :: ls) = [] :: ms) ∨
        (¬(isBlankLine l = true ∧ isBlankLine m = true) ∧ mergeRuns (l :: ls) = l :: m :: ms)) := by
  cases h : mergeRuns ls with
  | nil => exact .inl ⟨rfl, by simp [mergeRuns, h]⟩
  | cons m ms =>
    refine .inr ⟨m, ms, rfl, ?_⟩
    by_cases hb : isBlankLine l = true ∧ isBlankLine m = true
    · exact .inl ⟨hb.1, hb.2, by simp [mergeRuns, h, hb.1, hb.2]⟩
    · exact .inr ⟨hb, by simp [mergeRuns, h, hb]⟩

theorem isBlankLine_nil : isBlankLine [] = true := rfl

theorem not_isBlankLine_of_dropWhile_eq_cons {us : List Text}
    (h : ls.dropWhile isBlankLine = l :: us) : ¬isBlankLine l = true := by
  have := List.head?_dropWhile_not isBlankLine ls
  simpa [h] using this

theorem mergeRuns_noBlankPair (ls : List Text) : NoBlankPair (mergeRuns ls) := by
  induction ls with
  | nil => exact List.IsChain.nil
  | cons l ls ih =>
    rcases mergeRuns_cons_cases l ls with ⟨_, h⟩ | ⟨m, ms, hm, ⟨_, hblank, h⟩ | ⟨hpair, h⟩⟩
    · rw [h]
      exact List.IsChain.singleton l
    · rw [h]
      rw [hm] at ih
      cases ms with
      | nil => exact List.IsChain.singleton []
      | cons n ms =>
        obtain ⟨hn, htail⟩ := List.isChain_cons_cons.mp ih
        exact List.isChain_cons_cons.mpr ⟨fun hb => hn ⟨hblank, hb.2⟩, htail⟩
    · rw [h]
      rw [hm] at ih
      exact List.isChain_cons_cons.mpr ⟨hpair, ih⟩

theorem mergeRuns_eq_self (h : NoBlankPair ls) : mergeRuns ls = ls := by
  induction ls with
  | nil => rfl
  | cons l ls ih =>
    cases ls with
    | nil => rfl
    | cons m ms =>
      obtain ⟨hpair, htail⟩ := List.isChain_cons_cons.mp h
      rw [mergeRuns, ih htail]
      simp [hpair]

theorem mem_mergeRuns {m : Text} (h : m ∈ mergeRuns ls) : m = [] ∨ m ∈ ls := by
  induction ls with
  | nil => exact .inr h
  | cons l ls ih =>
    rcases mergeRuns_cons_cases l ls with ⟨_, he⟩ | ⟨k, ks, hk, ⟨_, _, he⟩ | ⟨_, he⟩⟩
    · rw [he, List.mem_singleton] at h
      exact .inr (h ▸ List.mem_cons_self)
    · rw [he, List.mem_cons] at h
      rcases h with h | h
      · exact .inl h
      · rcases ih (hk ▸ List.mem_cons_of_mem k h) with h | h
        · exact .inl h
        · exact .inr (List.mem_cons_of_mem l h)
    · rw [he, List.mem_cons] at h
      rcases h with h | h
      · exact .inr (h ▸ List.mem_cons_self)
      · rcases ih (hk ▸ h) with h | h
        · exact .inl h
        · exact .inr (List.mem_cons_of_mem l h)

/-- Merging commutes with dropping the blank lines at the start. -/
theorem dropWhile_mergeRuns (ls : List Text) :
    (mergeRuns ls).dropWhile isBlankLine = mergeRuns (ls.dropWhile isBlankLine) := by
  induction ls with
  | nil => rfl
  | cons l ls ih =>
    by_cases hl : isBlankLine l = true
    · rw [List.dropWhile_cons_of_pos hl, ← ih]
      rcases mergeRuns_cons_cases l ls with ⟨hnil, h⟩ | ⟨m, ms, hm, ⟨_, hblank, h⟩ | ⟨_, h⟩⟩
      · rw [h, hnil, List.dropWhile_cons_of_pos hl]
      · rw [h, hm, List.dropWhile_cons_of_pos hblank, List.dropWhile_cons_of_pos isBlankLine_nil]
      · rw [h, hm, List.dropWhile_cons_of_pos hl]
    · rw [List.dropWhile_cons_of_neg hl]
      rcases mergeRuns_cons_cases l ls with ⟨_, h⟩ | ⟨m, ms, _, ⟨hblank, _, _⟩ | ⟨_, h⟩⟩
      · rw [h, List.dropWhile_cons_of_neg hl]
      · exact absurd hblank hl
      · rw [h, List.dropWhile_cons_of_neg hl]

theorem mergeRuns_cons_of_not_blank (h : ¬isBlankLine l = true) :
    mergeRuns (l :: ls) = l :: mergeRuns ls := by
  rcases mergeRuns_cons_cases l ls with ⟨hnil, hl⟩ | ⟨m, ms, hm, ⟨hblank, _, _⟩ | ⟨_, hl⟩⟩
  · rw [hl, hnil]
  · exact absurd hblank h
  · rw [hl, hm]

/-- A line keeps its place when the line behind it is not blank. -/
theorem mergeRuns_cons_of_takeWhile_eq_nil (h : ls.takeWhile isBlankLine = []) :
    mergeRuns (l :: ls) = l :: mergeRuns ls := by
  cases ls with
  | nil => rfl
  | cons m ms =>
    have hm : ¬isBlankLine m = true := fun hb => by simp [hb] at h
    rw [mergeRuns, mergeRuns_cons_of_not_blank hm]
    simp [hm]

theorem mergeRuns_head_of_blank {m : Text} (hm : isBlankLine m = true) (ms : List Text) :
    ∃ n ns, mergeRuns (m :: ms) = n :: ns ∧ isBlankLine n = true := by
  rcases mergeRuns_cons_cases m ms with ⟨_, h⟩ | ⟨_, _, _, ⟨_, _, h⟩ | ⟨_, h⟩⟩
  · exact ⟨m, _, h, hm⟩
  · exact ⟨[], _, h, isBlankLine_nil⟩
  · exact ⟨m, _, h, hm⟩

/-- A run of two or more blank lines becomes one empty line. -/
theorem mergeRuns_of_run (h : 2 ≤ (ls.takeWhile isBlankLine).length) :
    mergeRuns ls = [] :: mergeRuns (ls.dropWhile isBlankLine) := by
  rcases ls with _ | ⟨l, _ | ⟨m, ms⟩⟩
  · simp at h
  · have := (List.takeWhile_prefix isBlankLine (l := [l])).length_le
    simp only [List.length_singleton] at this
    omega
  · have hl : isBlankLine l = true := by
      by_contra hl
      simp [hl] at h
    have hm : isBlankLine m = true := by
      by_contra hm
      simp [hl, hm] at h
    obtain ⟨n, ns, hns, hn⟩ := mergeRuns_head_of_blank hm ms
    have hmerge : mergeRuns (l :: m :: ms) = [] :: ns := by
      rw [mergeRuns, hns]
      simp [hl, hn]
    have hchain := mergeRuns_noBlankPair (l :: m :: ms)
    rw [← dropWhile_mergeRuns]
    rw [hmerge] at hchain ⊢
    cases ns with
    | nil => rfl
    | cons k ns =>
      have hk : ¬isBlankLine k = true := fun hk =>
        (List.isChain_cons_cons.mp hchain).1 ⟨isBlankLine_nil, hk⟩
      rw [List.dropWhile_cons_of_pos isBlankLine_nil, List.dropWhile_cons_of_neg hk]

end Merge

section Runs

theorem blankLine?_blank (hl : isBlankLine l = true) (s : Text) :
    blankLine? (l ++ ofChar '\n' :: s) = some s := by
  have hskip : skipInline (l ++ ofChar '\n' :: s) = ofChar '\n' :: s := by
    rw [skipInline, List.dropWhile_append_of_pos (by simpa [isBlankLine] using hl)]
    exact List.dropWhile_cons_of_neg (by decide)
  rw [blankLine?, hskip]
  exact after?_append [ofChar '\n'] s

/-- A line without line feed starts no blank line unless it is blank and one follows. -/
theorem after?_lineFeed_eq_none (h : ofChar '\n' ∉ u) (hu : u ≠ []) (s : Text) :
    after? ['\n'] (u ++ s) = none := by
  cases u with
  | nil => exact absurd rfl hu
  | cons c u => exact if_neg (List.ne_of_not_mem_cons h)

theorem blankLine?_not_blank (hl : ¬isBlankLine l = true) (hn : ofChar '\n' ∉ l) (s : Text) :
    blankLine? (l ++ s) = none := by
  have hne : l.dropWhile isInlineBlank ≠ [] := by
    rw [Ne, List.dropWhile_eq_nil_iff]
    simpa [isBlankLine] using hl
  have hskip : skipInline (l ++ s) = l.dropWhile isInlineBlank ++ s := by
    rw [skipInline, List.dropWhile_append, if_neg (by simpa using hne)]
  rw [blankLine?, hskip]
  exact after?_lineFeed_eq_none (fun hm => hn ((List.dropWhile_sublist _).subset hm)) hne s

theorem blankLine?_last (hn : ofChar '\n' ∉ last) : blankLine? last = none := by
  by_cases hl : isBlankLine last = true
  · have hskip : skipInline last = [] :=
      List.dropWhile_eq_nil_iff.mpr (by simpa [isBlankLine] using hl)
    rw [blankLine?, hskip]
    rfl
  · simpa using blankLine?_not_blank hl hn []

theorem blankRun_of_blankLine?_eq_none (h : blankLine? u = none) : blankRun u = (0, u) := by
  rw [blankRun, h]

/-- The blank lines at the start are counted, and the text behind them follows. -/
theorem blankRun_unlines (hls : ∀ l ∈ ls, ofChar '\n' ∉ l) (hlast : ofChar '\n' ∉ last) :
    blankRun (unlines ls last) =
      ((ls.takeWhile isBlankLine).length, unlines (ls.dropWhile isBlankLine) last) := by
  induction ls with
  | nil => exact blankRun_of_blankLine?_eq_none (blankLine?_last hlast)
  | cons l ls ih =>
    rw [List.forall_mem_cons] at hls
    by_cases hl : isBlankLine l = true
    · have hshort : (unlines ls last).length < (unlines (l :: ls) last).length := by
        simp only [unlines, List.length_append, List.length_cons]
        omega
      rw [blankRun, show blankLine? (unlines (l :: ls) last) = some (unlines ls last) from
        blankLine?_blank hl _]
      simp [hshort, ih hls.2, hl]
    · rw [unlines, blankRun_of_blankLine?_eq_none (blankLine?_not_blank hl hls.1 _)]
      simp [hl, unlines]

theorem collapseRuns_append (hn : ofChar '\n' ∉ u) (s : Text) :
    collapseRuns (u ++ s) = u ++ collapseRuns s := by
  induction u with
  | nil => rfl
  | cons c u ih =>
    have hc : ¬c = ofChar '\n' := fun h => List.ne_of_not_mem_cons hn h.symm
    rw [List.cons_append, collapseRuns, ih (List.not_mem_of_not_mem_cons hn)]
    simp [hc]

theorem collapseRuns_last (hn : ofChar '\n' ∉ last) : collapseRuns last = last := by
  have := collapseRuns_append hn []
  rwa [List.append_nil, collapseRuns, List.append_nil] at this

theorem blankRun_length_le (s : Text) : (blankRun s).2.length ≤ s.length := by
  fun_induction blankRun s with
  | case1 => exact Nat.le_refl _
  | case2 s rest _ hlt ih => exact Nat.le_trans ih (Nat.le_of_lt hlt)
  | case3 => exact Nat.le_refl _

theorem collapseRuns_lineFeed (s : Text) :
    collapseRuns (ofChar '\n' :: s) =
      if 2 ≤ (blankRun s).1 then ofChar '\n' :: ofChar '\n' :: collapseRuns (blankRun s).2
      else ofChar '\n' :: collapseRuns s := by
  rw [collapseRuns]
  simp [blankRun_length_le s]

/-- Behind the first line the runs of blank lines are merged. -/
theorem collapseRuns_unlines (n : Nat) {ls : List Text} (hn : ls.length ≤ n)
    (hl : ofChar '\n' ∉ l) (hls : ∀ l ∈ ls, ofChar '\n' ∉ l) (hlast : ofChar '\n' ∉ last) :
    collapseRuns (unlines (l :: ls) last) = unlines (l :: mergeRuns ls) last := by
  induction n generalizing l ls with
  | zero =>
    obtain rfl : ls = [] := List.length_eq_zero_iff.mp (Nat.le_zero.mp hn)
    rw [unlines, collapseRuns_append hl, collapseRuns_lineFeed, blankRun_unlines hls hlast]
    simp [unlines, mergeRuns, collapseRuns_last hlast]
  | succ n ih =>
    rw [unlines, collapseRuns_append hl, collapseRuns_lineFeed, blankRun_unlines hls hlast, unlines]
    congr 1
    split
    · next hrun =>
      have hlen := congrArg List.length
        (List.takeWhile_append_dropWhile (p := isBlankLine) (l := ls))
      rw [List.length_append] at hlen
      rw [mergeRuns_of_run hrun, unlines]
      congr 2
      have hrest : ∀ l ∈ ls.dropWhile isBlankLine, ofChar '\n' ∉ l := fun l hl =>
        hls l ((List.dropWhile_sublist _).subset hl)
      cases hd : ls.dropWhile isBlankLine with
      | nil => exact collapseRuns_last hlast
      | cons m ms =>
        rw [hd, List.forall_mem_cons] at hrest
        rw [hd, List.length_cons] at hlen
        rw [mergeRuns_cons_of_not_blank (not_isBlankLine_of_dropWhile_eq_cons hd)]
        exact ih (by omega) hrest.1 hrest.2
    · next hrun =>
      congr 1
      cases ls with
      | nil => exact collapseRuns_last hlast
      | cons m ms =>
        rw [List.forall_mem_cons] at hls
        have hmerge : mergeRuns (m :: ms) = m :: mergeRuns ms := by
          by_cases hm : isBlankLine m = true
          · refine mergeRuns_cons_of_takeWhile_eq_nil (List.eq_nil_of_length_eq_zero ?_)
            simp only [hm, List.takeWhile_cons_of_pos, List.length_cons] at hrun
            omega
          · exact mergeRuns_cons_of_not_blank hm
        rw [hmerge]
        exact ih (Nat.le_of_succ_le_succ hn) hls.1 hls.2

theorem mergeRuns_no_lineFeed (hls : ∀ l ∈ ls, ofChar '\n' ∉ l) :
    ∀ l ∈ mergeRuns ls, ofChar '\n' ∉ l := by
  intro l hl
  rcases mem_mergeRuns hl with rfl | hl
  · exact List.not_mem_nil
  · exact hls l hl

/-- Merging the runs and then dropping the blank lines at the start is both on lines. -/
theorem blankRun_collapseRuns (hls : ∀ l ∈ ls, ofChar '\n' ∉ l) (hlast : ofChar '\n' ∉ last) :
    (blankRun (collapseRuns (unlines ls last))).2 =
      unlines (mergeRuns (ls.dropWhile isBlankLine)) last := by
  cases ls with
  | nil =>
    rw [unlines, collapseRuns_last hlast, blankRun_of_blankLine?_eq_none (blankLine?_last hlast)]
    rfl
  | cons l ls =>
    rw [List.forall_mem_cons] at hls
    rw [collapseRuns_unlines ls.length (Nat.le_refl _) hls.1 hls.2 hlast, blankRun_unlines
      (List.forall_mem_cons.mpr ⟨hls.1, mergeRuns_no_lineFeed hls.2⟩) hlast]
    by_cases hl : isBlankLine l = true
    · rw [List.dropWhile_cons_of_pos hl, List.dropWhile_cons_of_pos hl, dropWhile_mergeRuns]
    · rw [List.dropWhile_cons_of_neg hl, List.dropWhile_cons_of_neg hl,
        mergeRuns_cons_of_not_blank hl]

end Runs

section Ends

/-- What the blank lines at the end consist of. -/
def isTail (c : CodePoint) : Bool := c = '\n' || c.isInlineBlank

theorem dropLastBlankLines_eq (s : Text) :
    dropLastBlankLines s = s.rdropWhile isTail ++
      (s.rtakeWhile isTail).takeWhile fun c : CodePoint => c ≠ '\n' := rfl

theorem rdropWhile_append_of_all {α : Type} {p : α → Bool} {b : List α}
    (hb : ∀ c ∈ b, p c = true) (u : List α) : (u ++ b).rdropWhile p = u.rdropWhile p := by
  rw [List.rdropWhile, List.reverse_append, List.dropWhile_append_of_pos (by simpa using hb),
    List.rdropWhile]

theorem rtakeWhile_append_of_all {p : CodePoint → Bool} {b : Text} (hb : ∀ c ∈ b, p c = true)
    (u : Text) : (u ++ b).rtakeWhile p = u.rtakeWhile p ++ b := by
  rw [List.rtakeWhile, List.reverse_append, List.takeWhile_append_of_pos (by simpa using hb),
    List.reverse_append, List.reverse_reverse, List.rtakeWhile]

/-- A blank last line goes away with the line feed in front of it. -/
theorem dropLastBlankLines_blank (hb : isBlankLine last = true) (u : Text) :
    dropLastBlankLines (u ++ ofChar '\n' :: last) = dropLastBlankLines u := by
  have htail : ∀ c ∈ ofChar '\n' :: last, isTail c = true := by
    rw [List.forall_mem_cons]
    refine ⟨by decide, fun c hc => ?_⟩
    simp [isTail, List.all_eq_true.mp hb c hc]
  rw [dropLastBlankLines_eq, rdropWhile_append_of_all htail, rtakeWhile_append_of_all htail,
    List.takeWhile_append, dropLastBlankLines_eq]
  split
  · next hall =>
    rw [(List.takeWhile_prefix _).eq_of_length hall]
    simp
  · rfl

/-- A last line that is not blank stays with everything in front of it. -/
theorem dropLastBlankLines_not_blank (hl : ¬isBlankLine last = true) (hn : ofChar '\n' ∉ last)
    (ls : List Text) : dropLastBlankLines (unlines ls last) = unlines ls last := by
  rw [show unlines ls last = unlines ls [] ++ last from unlines_append_last ls [] last]
  generalize unlines ls [] = u
  have hne : last.rdropWhile isTail ≠ [] := by
    rw [Ne, List.rdropWhile_eq_nil_iff]
    intro hall
    refine hl (List.all_eq_true.mpr fun c hc => ?_)
    have hc' : c ≠ ofChar '\n' := fun h => hn (h ▸ hc)
    simpa [isTail, hc'] using hall c hc
  have hend := List.rdropWhile_last_not isTail last hne
  have hsplit := List.rdropWhile_append_rtakeWhile (p := isTail) (l := last)
  have hb : ∀ c ∈ last.rtakeWhile isTail, isTail c = true := fun c hc =>
    List.mem_rtakeWhile_imp hc
  have hnb : ∀ c ∈ last.rtakeWhile isTail, c ≠ ofChar '\n' := fun c hc h =>
    hn (h ▸ (List.rtakeWhile_suffix isTail last).subset hc)
  generalize last.rdropWhile isTail = v at hne hend hsplit
  generalize last.rtakeWhile isTail = b at hsplit hb hnb
  have hdrop : (u ++ v).rdropWhile isTail = u ++ v :=
    (List.rdropWhile_eq_self_iff).mpr fun h => by rwa [List.getLast_append_of_ne_nil _ hne]
  have htake : (u ++ v).rtakeWhile isTail = [] :=
    (List.rtakeWhile_eq_nil_iff).mpr fun h => by rwa [List.getLast_append_of_ne_nil _ hne]
  rw [← hsplit, ← List.append_assoc, dropLastBlankLines_eq, rdropWhile_append_of_all hb,
    rtakeWhile_append_of_all hb, hdrop, htake, List.nil_append,
    List.takeWhile_eq_self_iff.mpr (by simpa using hnb)]

theorem dropLastBlankLines_last (hn : ofChar '\n' ∉ last) : dropLastBlankLines last = last := by
  have htake : (last.rtakeWhile isTail).takeWhile (fun c : CodePoint => c ≠ '\n') =
      last.rtakeWhile isTail := by
    refine List.takeWhile_eq_self_iff.mpr fun c hc => ?_
    have : c ≠ ofChar '\n' := fun h => hn (h ▸ (List.rtakeWhile_suffix isTail last).subset hc)
    simpa using this
  rw [dropLastBlankLines_eq, htake, List.rdropWhile_append_rtakeWhile]

/-- The blank lines at the end go away as long as a line is left that is not blank. -/
theorem dropLastBlankLines_unlines (hls : ∀ l ∈ ls, ofChar '\n' ∉ l) (hlast : ofChar '\n' ∉ last)
    (h : ∃ l ∈ ls ++ [last], ¬isBlankLine l = true) :
    ∃ ms m, dropLastBlankLines (unlines ls last) = unlines ms m ∧
      ms ++ [m] = (ls ++ [last]).rdropWhile isBlankLine := by
  induction ls using List.reverseRecOn generalizing last with
  | nil =>
    have hb : ¬isBlankLine last = true := by simpa using h
    exact ⟨[], last, dropLastBlankLines_last hlast, (List.rdropWhile_concat_neg _ _ _ hb).symm⟩
  | append_singleton ls l ih =>
    by_cases hb : isBlankLine last = true
    · have hl : ofChar '\n' ∉ l := hls l (by simp)
      have h' : ∃ m ∈ ls ++ [l], ¬isBlankLine m = true := by
        obtain ⟨m, hm, hblank⟩ := h
        rcases List.mem_append.mp hm with hm | hm
        · exact ⟨m, hm, hblank⟩
        · exact absurd (List.mem_singleton.mp hm ▸ hb) hblank
      obtain ⟨ms, m, hdrop, hms⟩ := ih (fun m hm => hls m (List.mem_append_left _ hm)) hl h'
      refine ⟨ms, m, ?_, ?_⟩
      · rw [unlines_append_singleton, dropLastBlankLines_blank hb, hdrop]
      · rw [hms, List.rdropWhile_concat_pos _ _ _ hb]
    · exact ⟨ls ++ [l], last, dropLastBlankLines_not_blank hb hlast _,
        (List.rdropWhile_concat_neg _ _ _ hb).symm⟩

end Ends

/-- The lines begin with one that is not blank, no two blank ones stand together, and no blank one
ends them. -/
structure Collapsed (ls : List Text) (last : Text) : Prop where
  start : ls.dropWhile isBlankLine = ls
  noBlankPair : NoBlankPair ls
  stop : ls ≠ [] → ¬isBlankLine last = true

theorem collapseBlankLines_unlines (hls : ∀ l ∈ ls, ofChar '\n' ∉ l)
    (hlast : ofChar '\n' ∉ last) :
    collapseBlankLines (unlines ls last) =
      dropLastBlankLines (unlines (mergeRuns (ls.dropWhile isBlankLine)) last) := by
  rw [collapseBlankLines, blankRun_collapseRuns hls hlast]

/-- Behind the blank lines at the start the last line follows, as long as one is not blank. -/
theorem dropWhile_concat_of_not_blank (h : ∃ l ∈ ls ++ [last], ¬isBlankLine l = true) :
    (ls ++ [last]).dropWhile isBlankLine = ls.dropWhile isBlankLine ++ [last] := by
  rw [List.dropWhile_append]
  split
  · next hempty =>
    have hnil := List.isEmpty_iff.mp hempty
    have hblank := List.dropWhile_eq_nil_iff.mp hnil
    have hlast : ¬isBlankLine last = true := by
      obtain ⟨l, hl, hnot⟩ := h
      rcases List.mem_append.mp hl with hl | hl
      · exact absurd (hblank l hl) hnot
      · exact List.mem_singleton.mp hl ▸ hnot
    rw [hnil, List.dropWhile_cons_of_neg hlast, List.nil_append]
  · rfl

theorem exists_not_blank_mergeRuns (h : ∃ l ∈ ls ++ [last], ¬isBlankLine l = true) :
    ∃ l ∈ mergeRuns (ls.dropWhile isBlankLine) ++ [last], ¬isBlankLine l = true := by
  cases hdrop : ls.dropWhile isBlankLine with
  | nil =>
    have hconcat := dropWhile_concat_of_not_blank h
    rw [hdrop] at hconcat
    exact ⟨last, by simp, not_isBlankLine_of_dropWhile_eq_cons hconcat⟩
  | cons l ms =>
    have hl := not_isBlankLine_of_dropWhile_eq_cons hdrop
    exact ⟨l, by simp [mergeRuns_cons_of_not_blank hl], hl⟩

/-- Of blank lines alone the last one is left. -/
theorem collapseBlankLines_of_blank (hls : ∀ l ∈ ls, ofChar '\n' ∉ l) (hlast : ofChar '\n' ∉ last)
    (h : ∀ l ∈ ls ++ [last], isBlankLine l = true) :
    collapseBlankLines (unlines ls last) = last := by
  have hnil : ls.dropWhile isBlankLine = [] :=
    List.dropWhile_eq_nil_iff.mpr fun l hl => h l (List.mem_append_left _ hl)
  rw [collapseBlankLines_unlines hls hlast, hnil]
  exact dropLastBlankLines_last hlast

/-- As long as a line is not blank, the merged lines are left without the blank ones at either
end. -/
theorem exists_unlines_collapseBlankLines (hls : ∀ l ∈ ls, ofChar '\n' ∉ l)
    (hlast : ofChar '\n' ∉ last) (h : ∃ l ∈ ls ++ [last], ¬isBlankLine l = true) :
    ∃ ms m, collapseBlankLines (unlines ls last) = unlines ms m ∧ (∀ l ∈ ms, ofChar '\n' ∉ l) ∧
      ofChar '\n' ∉ m ∧
      ms ++ [m] = (mergeRuns (ls.dropWhile isBlankLine) ++ [last]).rdropWhile isBlankLine := by
  have hmerged : ∀ l ∈ mergeRuns (ls.dropWhile isBlankLine), ofChar '\n' ∉ l :=
    mergeRuns_no_lineFeed fun l hl => hls l ((List.dropWhile_sublist _).subset hl)
  obtain ⟨ms, m, hdrop, hms⟩ :=
    dropLastBlankLines_unlines hmerged hlast (exists_not_blank_mergeRuns h)
  have hfeed : ∀ l ∈ ms ++ [m], ofChar '\n' ∉ l := by
    rw [hms]
    intro l hl
    rcases List.mem_append.mp ((List.rdropWhile_prefix _ _).subset hl) with hl | hl
    · exact hmerged l hl
    · exact List.mem_singleton.mp hl ▸ hlast
  rw [List.forall_mem_append, List.forall_mem_singleton] at hfeed
  exact ⟨ms, m, (collapseBlankLines_unlines hls hlast).trans hdrop, hfeed.1, hfeed.2, hms⟩

/-- Lines without blank ones at the start and without blank pairs are collapsed once the blank ones
at the end are gone. -/
theorem Collapsed.of_rdropWhile {ms : List Text} {m : Text} (hstart : ls.dropWhile isBlankLine = ls)
    (hpair : NoBlankPair ls) (hms : ms ++ [m] = (ls ++ [last]).rdropWhile isBlankLine) :
    Collapsed ms m := by
  have hprefix : ms ++ [m] <+: ls ++ [last] := hms ▸ List.rdropWhile_prefix isBlankLine _
  have hm : ¬isBlankLine m = true := by
    have := List.rdropWhile_last_not isBlankLine (ls ++ [last]) (by simp [← hms])
    simpa [← hms] using this
  have hms' : ms <+: ls := by
    have := List.prefix_of_prefix_length_le ((List.prefix_append ms [m]).trans hprefix)
      (List.prefix_append ls [last])
    exact this (by simpa using hprefix.length_le)
  refine ⟨?_, hpair.prefix hms', fun _ => hm⟩
  cases ms with
  | nil => rfl
  | cons k ks =>
    obtain ⟨rest, rfl⟩ := hms'
    exact List.dropWhile_cons_of_neg (not_isBlankLine_of_dropWhile_eq_cons hstart)

/-- The pass leaves collapsed lines. -/
theorem exists_collapsed (s : Text) :
    ∃ ls last, collapseBlankLines s = unlines ls last ∧ (∀ l ∈ ls, ofChar '\n' ∉ l) ∧
      ofChar '\n' ∉ last ∧ Collapsed ls last := by
  obtain ⟨ls, last, rfl, hls, hlast⟩ := exists_unlines s
  by_cases h : ∃ l ∈ ls ++ [last], ¬isBlankLine l = true
  · obtain ⟨ms, m, hcollapse, hfeed, hm, hms⟩ := exists_unlines_collapseBlankLines hls hlast h
    refine ⟨ms, m, hcollapse, hfeed, hm, .of_rdropWhile ?_ (mergeRuns_noBlankPair _) hms⟩
    rw [dropWhile_mergeRuns, List.dropWhile_idempotent]
  · have hblank : ∀ l ∈ ls ++ [last], isBlankLine l = true :=
      fun l hl => by_contra fun hb => h ⟨l, hl, hb⟩
    exact ⟨[], last, collapseBlankLines_of_blank hls hlast hblank, by simp, hlast, rfl,
      List.IsChain.nil, by simp⟩

theorem Collapsed.collapseBlankLines_eq_self (hc : Collapsed ls last)
    (hls : ∀ l ∈ ls, ofChar '\n' ∉ l) (hlast : ofChar '\n' ∉ last) :
    collapseBlankLines (unlines ls last) = unlines ls last := by
  rw [collapseBlankLines_unlines hls hlast, hc.start, mergeRuns_eq_self hc.noBlankPair]
  by_cases hnil : ls = []
  · rw [hnil]
    exact dropLastBlankLines_last hlast
  · exact dropLastBlankLines_not_blank (hc.stop hnil) hlast ls

/-- A second pass finds nothing to do. -/
theorem collapseBlankLines_idem (s : Text) :
    collapseBlankLines (collapseBlankLines s) = collapseBlankLines s := by
  obtain ⟨ls, last, hs, hls, hlast, hc⟩ := exists_collapsed s
  rw [hs, hc.collapseBlankLines_eq_self hls hlast]

/-- What the pass leaves alone is exactly what is collapsed already. -/
theorem collapseBlankLines_eq_self_iff (s : Text) :
    collapseBlankLines s = s ↔
      ∃ ls last, s = unlines ls last ∧ (∀ l ∈ ls, ofChar '\n' ∉ l) ∧ ofChar '\n' ∉ last ∧
        Collapsed ls last := by
  constructor
  · intro h
    obtain ⟨ls, last, hs, hrest⟩ := exists_collapsed s
    exact ⟨ls, last, h.symm.trans hs, hrest⟩
  · rintro ⟨ls, last, rfl, hls, hlast, hc⟩
    exact hc.collapseBlankLines_eq_self hls hlast

section Deletions

theorem sublist_of_blankLine? {r : Text} (h : blankLine? u = some r) :
    (ofChar '\n' :: r).Sublist u := by
  have hskip : skipInline u = ofChar '\n' :: r := eq_append_of_after? h
  exact hskip ▸ List.dropWhile_sublist _

/-- Of the blank lines that are counted one line feed can stay. -/
theorem blankRun_sublist (s : Text) :
    (blankRun s).2.Sublist s ∧
      (1 ≤ (blankRun s).1 → (ofChar '\n' :: (blankRun s).2).Sublist s) := by
  fun_induction blankRun s with
  | case1 s _ => exact ⟨List.Sublist.refl s, by simp⟩
  | case2 s rest hline _ ih =>
    have hs := sublist_of_blankLine? hline
    have hfeed := (ih.1.cons_cons (ofChar '\n')).trans hs
    exact ⟨(List.sublist_cons_self _ _).trans hfeed, fun _ => hfeed⟩
  | case3 s _ _ _ => exact ⟨List.Sublist.refl s, by simp⟩

theorem collapseRuns_sublist (s : Text) : (collapseRuns s).Sublist s := by
  fun_induction collapseRuns s with
  | case1 => exact List.Sublist.refl []
  | case2 c s h ih =>
    obtain ⟨rfl, hrun, _⟩ := h
    have hfeed := (blankRun_sublist s).2 (by omega)
    exact ((ih.cons_cons _).trans hfeed).cons_cons _
  | case3 c s _ ih => exact ih.cons_cons c

theorem dropLastBlankLines_sublist (s : Text) : (dropLastBlankLines s).Sublist s := by
  have h := (List.Sublist.refl (s.rdropWhile isTail)).append
    (List.takeWhile_sublist (fun c : CodePoint => c ≠ '\n') (l := s.rtakeWhile isTail))
  rwa [List.rdropWhile_append_rtakeWhile] at h

theorem collapseBlankLines_sublist (s : Text) : (collapseBlankLines s).Sublist s :=
  ((dropLastBlankLines_sublist _).trans (blankRun_sublist _).1).trans (collapseRuns_sublist s)

end Deletions

end SitePreview.Source
