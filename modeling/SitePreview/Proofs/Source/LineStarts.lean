import SitePreview.Proofs.Source.Suffix

/-! Edits at the starts of lines. An edit that only deletes leaves a sublist of the source, and it
leaves the source alone exactly when it finds nothing to delete at the start of any line. -/

namespace SitePreview.Source

open Text CodePoint

variable {s u r : Text}

/-- The ends of a text that start a line and are not empty. `atLineStart` tells whether the text
itself starts one. -/
def startsFrom (atLineStart : Bool) : Text → List Text
  | [] => []
  | c :: s => (if atLineStart then [c :: s] else []) ++ startsFrom (c = '\n') s

/-- The ends of a text that start a line and are not empty. -/
def lineStarts (s : Text) : List Text := startsFrom true s

theorem mem_startsFrom_cons {b : Bool} {c : CodePoint} :
    u ∈ startsFrom b (c :: s) ↔ (b = true ∧ u = c :: s) ∨ u ∈ startsFrom (c = '\n') s := by
  cases b <;> simp [startsFrom]

theorem startsFrom_false_subset {b : Bool} (h : u ∈ startsFrom false s) : u ∈ startsFrom b s := by
  cases s with
  | nil => exact h
  | cons c s => exact mem_startsFrom_cons.mpr (.inr (by simpa [startsFrom] using h))

theorem startsFrom_false_suffix {r : Text} {b : Bool} (hr : r <:+ s)
    (h : u ∈ startsFrom false r) : u ∈ startsFrom b s := by
  induction s generalizing b with
  | nil =>
    rw [List.suffix_nil.mp hr] at h
    exact h
  | cons c s ih =>
    rcases List.suffix_cons_iff.mp hr with rfl | hr
    · exact startsFrom_false_subset h
    · exact mem_startsFrom_cons.mpr (.inr (ih hr))

/-- A line start lies before the parenthesis or behind it. -/
theorem mem_startsFrom_paren {b : Bool} {w r : Text} (h : u ∈ startsFrom b (w ++ ofChar '(' :: r)) :
    (∃ v, v <:+ w ∧ u = v ++ ofChar '(' :: r) ∨ u ∈ startsFrom false r := by
  induction w generalizing b with
  | nil =>
    rcases mem_startsFrom_cons.mp h with ⟨_, rfl⟩ | h
    · exact .inl ⟨[], List.suffix_rfl, rfl⟩
    · exact .inr h
  | cons c w ih =>
    rcases mem_startsFrom_cons.mp h with ⟨_, rfl⟩ | h
    · exact .inl ⟨c :: w, List.suffix_rfl, rfl⟩
    · rcases ih h with ⟨v, hs, rfl⟩ | h
      · exact .inl ⟨v, hs.trans (List.suffix_cons c w), rfl⟩
      · exact .inr h

/-- What the pass keeps of a source keeps its order. -/
def DeletesOnly (f : Text → Text) : Prop := ∀ s, (f s).Sublist s

/-- The edits keep a part of what they look at. -/
def Deleting (edit : Text → Option Edit) : Prop :=
  ∀ u e, edit u = some e → (e.kept ++ e.rest).Sublist u

/-- The edits keep less than what they look at. -/
def Shrinking (edit : Text → Option Edit) : Prop :=
  ∀ u e, edit u = some e → e.kept.length + e.rest.length < u.length

theorem atLineStart_of_edit {edit : Text → Option Edit} {b : Bool} {e : Edit}
    (h : (if b = true then edit s else none) = some e) : b = true ∧ edit s = some e := by
  simpa using h

theorem editFrom_sublist {edit : Text → Option Edit} (h : Deleting edit) (b : Bool) :
    DeletesOnly (editFrom edit b) := by
  intro s
  fun_induction editFrom edit b s with
  | case1 => exact List.Sublist.slnil
  | case2 b c s _ ih => exact ih.cons_cons c
  | case3 b c s e he _ ih =>
    exact (ih.append_left e.kept).trans (h _ _ (atLineStart_of_edit he).2)
  | case4 b c s _ _ _ ih => exact ih.cons_cons c

/-- Edits that always delete leave a source alone exactly when none is made at a line start. -/
theorem editFrom_eq_self_iff {edit : Text → Option Edit} (hd : Deleting edit)
    (hs : Shrinking edit) (b : Bool) (s : Text) :
    editFrom edit b s = s ↔ ∀ u ∈ startsFrom b s, edit u = none := by
  constructor
  · intro h u hu
    fun_induction editFrom edit b s with
    | case1 => simp [startsFrom] at hu
    | case2 b c s hnone ih =>
      rcases mem_startsFrom_cons.mp hu with ⟨rfl, rfl⟩ | hu
      · simpa using hnone
      · exact ih (List.cons.inj h).2 hu
    | case3 b c s e he _ ih =>
      have hlen := hs _ _ (atLineStart_of_edit he).2
      have hsub := (editFrom_sublist hd e.atLineStart e.rest).length_le
      have := congrArg List.length h
      rw [List.length_append] at this
      omega
    | case4 b c s e he hlong ih =>
      have := hs _ _ (atLineStart_of_edit he).2
      simp only [List.length_cons] at this
      omega
  · intro h
    fun_induction editFrom edit b s with
    | case1 => rfl
    | case2 b c s _ ih => rw [ih fun u hu => h u (mem_startsFrom_cons.mpr (.inr hu))]
    | case3 b c s e he _ _ | case4 b c s e he _ _ =>
      obtain ⟨rfl, hedit⟩ := atLineStart_of_edit he
      rw [h _ (mem_startsFrom_cons.mpr (.inl ⟨rfl, rfl⟩))] at hedit
      simp at hedit

section Statements

variable {statement : Text → Option Text} (hc : Consumes statement)
include hc

theorem removeStatements_deletesOnly : DeletesOnly (removeStatements statement) := by
  refine editFrom_sublist (fun u e he => ?_) true
  obtain ⟨r, hr, rfl⟩ := Option.map_eq_some_iff.mp he
  exact (hc u r hr).1.sublist

theorem removeStatements_eq_self_iff (s : Text) :
    removeStatements statement s = s ↔ ∀ u ∈ lineStarts s, statement u = none := by
  have hd : Deleting fun s => (statement s).map .remove := fun u e he => by
    obtain ⟨r, hr, rfl⟩ := Option.map_eq_some_iff.mp he
    exact (hc u r hr).1.sublist
  have hs : Shrinking fun s => (statement s).map .remove := fun u e he => by
    obtain ⟨r, hr, rfl⟩ := Option.map_eq_some_iff.mp he
    simpa [Edit.remove] using (hc u r hr).2
  rw [removeStatements, editLines, editFrom_eq_self_iff hd hs]
  simp only [Option.map_eq_none_iff, lineStarts]

end Statements

section Words

variable {words : Text → Option Text}

theorem removeLeadingWords_deleting (hc : Consumes words) :
    Deleting (fun s => (words (skipInline s)).map fun rest =>
      ⟨s.takeWhile isInlineBlank, rest, false⟩) ∧
    Shrinking (fun s => (words (skipInline s)).map fun rest =>
      ⟨s.takeWhile isInlineBlank, rest, false⟩) := by
  constructor
  · intro u e he
    obtain ⟨r, hr, rfl⟩ := Option.map_eq_some_iff.mp he
    have := (List.Sublist.refl (u.takeWhile isInlineBlank)).append (hc _ r hr).1.sublist
    rwa [skipInline, List.takeWhile_append_dropWhile] at this
  · intro u e he
    obtain ⟨r, hr, rfl⟩ := Option.map_eq_some_iff.mp he
    have hlen := (hc _ r hr).2
    have hsum := congrArg List.length
      (List.takeWhile_append_dropWhile (p := isInlineBlank) (l := u))
    rw [List.length_append] at hsum
    simp only [skipInline] at hlen
    show (u.takeWhile isInlineBlank).length + r.length < u.length
    omega

theorem removeLeadingWords_deletesOnly (hc : Consumes words) :
    DeletesOnly (removeLeadingWords words) :=
  editFrom_sublist (removeLeadingWords_deleting hc).1 true

theorem removeLeadingWords_eq_self_iff (hc : Consumes words) (s : Text) :
    removeLeadingWords words s = s ↔ ∀ u ∈ lineStarts s, words (skipInline u) = none := by
  rw [removeLeadingWords, editLines, editFrom_eq_self_iff (removeLeadingWords_deleting hc).1
    (removeLeadingWords_deleting hc).2]
  simp only [Option.map_eq_none_iff, lineStarts]

end Words

section Calls

variable {call : Text → Option Text}

/-- What follows a call that can be removed: it is closed, and nothing stands behind it on its
line. -/
def removable? (call : Text → Option Text) (s : Text) : Option Text := (call s).bind callStatement?

/-- The edit that `removeCalls` makes. -/
def callEdit (call : Text → Option Text) (s : Text) : Option Edit :=
  (call s).map fun opened =>
    match callStatement? opened with
    | some rest => .remove rest
    | none => .pass s opened.tail

theorem removeCalls_eq (call : Text → Option Text) (s : Text) :
    removeCalls call s = editFrom (callEdit call) true s := rfl

theorem Edit.pass_append (hr : r <:+ s) : (Edit.pass s r).kept ++ r = s := by
  obtain ⟨w, rfl⟩ := hr
  simp [Edit.pass]

/-- The edit removes a call that can be removed, and passes over any other. -/
theorem callEdit_cases (ho : Opens call) {e : Edit} (he : callEdit call s = some e) :
    (∃ rest, e = .remove rest ∧ removable? call s = some rest ∧ rest <:+ s ∧
      rest.length < s.length) ∨
    ∃ w r, e = .pass s r ∧ s = w ++ ofChar '(' :: r ∧ ofChar '(' ∉ w ∧
      callStatement? (ofChar '(' :: r) = none := by
  obtain ⟨opened, hcall, rfl⟩ := Option.map_eq_some_iff.mp he
  obtain ⟨⟨w, hw, hparen⟩, hhead⟩ := ho s opened hcall
  cases hst : callStatement? opened with
  | some rest =>
    obtain ⟨h1, h2⟩ := callStatement?_consumes opened rest hst
    have hs : opened <:+ s := ⟨w, hw.symm⟩
    have := hs.length_le
    exact .inl ⟨rest, rfl, by simp [removable?, hcall, hst], h1.trans hs, by omega⟩
  | none =>
    cases opened with
    | nil => simp at hhead
    | cons c r =>
      obtain rfl : c = ofChar '(' := by simpa using hhead
      exact .inr ⟨w, r, rfl, hw, hparen, hst⟩

theorem callEdit_deleting (ho : Opens call) : Deleting (callEdit call) := by
  intro u e he
  rcases callEdit_cases ho he with ⟨rest, rfl, _, hs, _⟩ | ⟨w, r, rfl, hu, _, _⟩
  · exact hs.sublist
  · have hr : r <:+ u := ⟨w ++ [ofChar '('], by simp [hu]⟩
    exact (Edit.pass_append hr).symm ▸ List.Sublist.refl u

theorem removeCalls_deletesOnly (ho : Opens call) : DeletesOnly (removeCalls call) :=
  editFrom_sublist (callEdit_deleting ho) true

/-- The first parenthesis of a text is at one place only. -/
theorem opened_unique {v w t : Text} (hv : ofChar '(' ∉ v) (hw : ofChar '(' ∉ w)
    (h : v ++ ofChar '(' :: r = w ++ ofChar '(' :: t) : r = t := by
  induction v generalizing w with
  | nil =>
    cases w with
    | nil => exact (List.cons.inj h).2
    | cons c w => exact absurd (List.cons.inj h).1 (List.ne_of_not_mem_cons hw)
  | cons c v ih =>
    cases w with
    | nil => exact absurd (List.cons.inj h).1.symm (List.ne_of_not_mem_cons hv)
    | cons d w =>
      exact ih (List.not_mem_of_not_mem_cons hv) (List.not_mem_of_not_mem_cons hw)
        (List.cons.inj h).2

/-- Between the words of a call that cannot be removed no other one starts that can, for it would
have the same parenthesis. -/
theorem removable?_eq_none_of_suffix (ho : Opens call) {v w : Text} (hw : ofChar '(' ∉ w)
    (hst : callStatement? (ofChar '(' :: r) = none) (hv : v <:+ w) :
    removable? call (v ++ ofChar '(' :: r) = none := by
  cases hcall : call (v ++ ofChar '(' :: r) with
  | none => simp [removable?, hcall]
  | some opened =>
    obtain ⟨⟨x, hx, hparen⟩, hhead⟩ := ho _ opened hcall
    cases opened with
    | nil => simp at hhead
    | cons c t =>
      obtain rfl : c = ofChar '(' := by simpa using hhead
      have hr : r = t := opened_unique (fun hm => hw (hv.subset hm)) hparen hx
      simp [removable?, hcall, ← hr, hst]

theorem removable?_of_editFrom_eq_self (ho : Opens call) {b : Bool}
    (h : editFrom (callEdit call) b s = s) (hu : u ∈ startsFrom b s) :
    removable? call u = none := by
  fun_induction editFrom (callEdit call) b s with
  | case1 => simp [startsFrom] at hu
  | case2 b c s hnone ih =>
    rcases mem_startsFrom_cons.mp hu with ⟨rfl, rfl⟩ | hu
    · have hcall : call (c :: s) = none := by simpa [callEdit] using hnone
      simp [removable?, hcall]
    · exact ih (List.cons.inj h).2 hu
  | case3 b c s e he hlt ih =>
    rcases callEdit_cases ho (atLineStart_of_edit he).2 with
      ⟨rest, rfl, _, _, hlen⟩ | ⟨w, r, rfl, hs, hw, hst⟩
    · -- a removal shortens the source, which it was said to leave alone
      have hsub := (editFrom_sublist (callEdit_deleting ho) true rest).length_le
      have hself := congrArg List.length h
      simp only [Edit.remove, List.nil_append] at hself
      omega
    · have hr : r <:+ c :: s := ⟨w ++ [ofChar '('], by simp [hs]⟩
      have hrest : editFrom (callEdit call) false r = r :=
        List.append_cancel_left (h.trans (Edit.pass_append hr).symm)
      rw [hs] at hu
      rcases mem_startsFrom_paren hu with ⟨v, hv, rfl⟩ | hu
      · exact removable?_eq_none_of_suffix ho hw hst hv
      · exact ih hrest hu
  | case4 b c s e he hlong ih =>
    rcases callEdit_cases ho (atLineStart_of_edit he).2 with
      ⟨rest, rfl, _, _, hlen⟩ | ⟨w, r, rfl, hs, _, _⟩
    · exact absurd hlen hlong
    · refine absurd ?_ hlong
      have := congrArg List.length hs
      simp only [List.length_cons, List.length_append] at this
      simp only [Edit.pass]
      omega

theorem editFrom_callEdit_of_none (ho : Opens call) {b : Bool}
    (h : ∀ u ∈ startsFrom b s, removable? call u = none) : editFrom (callEdit call) b s = s := by
  fun_induction editFrom (callEdit call) b s with
  | case1 => rfl
  | case2 b c s _ ih => rw [ih fun u hu => h u (mem_startsFrom_cons.mpr (.inr hu))]
  | case3 b c s e he hlt ih =>
    obtain ⟨rfl, hedit⟩ := atLineStart_of_edit he
    rcases callEdit_cases ho hedit with ⟨rest, rfl, hremove, _, _⟩ | ⟨w, r, rfl, hs, _, _⟩
    · rw [h _ (mem_startsFrom_cons.mpr (.inl ⟨rfl, rfl⟩))] at hremove
      simp at hremove
    · have hr : r <:+ c :: s := ⟨w ++ [ofChar '('], by simp [hs]⟩
      rw [show (Edit.pass (c :: s) r).rest = r from rfl,
        show (Edit.pass (c :: s) r).atLineStart = false from rfl] at ih ⊢
      rw [ih fun u hu => h u (startsFrom_false_suffix hr hu), Edit.pass_append hr]
  | case4 b c s e he hlong ih => rw [ih fun u hu => h u (mem_startsFrom_cons.mpr (.inr hu))]

/-- Calls are removed exactly where one that can be removed starts a line. -/
theorem removeCalls_eq_self_iff (ho : Opens call) (s : Text) :
    removeCalls call s = s ↔ ∀ u ∈ lineStarts s, removable? call u = none := by
  constructor
  · intro h u hu
    exact removable?_of_editFrom_eq_self ho h hu
  · intro h
    exact editFrom_callEdit_of_none ho h

end Calls

end SitePreview.Source
