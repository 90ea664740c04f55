import SitePreview.Markup.Search
import SitePreview.Proofs.Markup.Inside
import SitePreview.Proofs.Source.Suffix

/-! Searching for tags. What is found splits the text at a place at which the recogniser succeeds,
and in a text that is free of the start of a tag no such place lies, whatever follows it. -/

namespace SitePreview

namespace Text

/-- What follows a word in letters of any case ends the text. -/
theorem afterFolded?_suffix {w s r : Text} (h : afterFolded? w s = some r) : r <:+ s := by
  induction w generalizing s with
  | nil =>
    cases h
    exact List.suffix_rfl
  | cons p w ih =>
    cases s with
    | nil => cases h
    | cons c s =>
      simp only [afterFolded?, Option.ite_none_right_eq_some] at h
      exact (ih h.2).trans (List.suffix_cons c s)

end Text

namespace Markup

open Text

/-- The recogniser leaves an end of what it looks at. -/
def LeavesEnd (recognise : Text → Option Text) : Prop := ∀ s r, recognise s = some r → r <:+ s

variable {recognise : Text → Option Text} {s t rest word : Text} {f : Found} {c : CodePoint}

theorem covered_append (h : rest <:+ s) : covered s rest ++ rest = s := by
  obtain ⟨front, rfl⟩ := h
  rw [covered, List.length_append, Nat.add_sub_cancel, List.take_left]

theorem endTag?_leavesEnd (element : Text) : LeavesEnd (endTag? element) := by
  intro s r h
  simp only [endTag?, Option.bind_eq_bind, Option.bind_eq_some_iff] at h
  obtain ⟨t, ht, h⟩ := h
  exact (after?_suffix h).trans ((skipBlanks_suffix t).trans (afterFolded?_suffix ht))

theorem startTagName?_leavesEnd (element : Text) : LeavesEnd (startTagName? element) := by
  intro s r h
  simp only [startTagName?, afterWord?, Option.bind_eq_bind, Option.bind_eq_some_iff,
    Option.ite_none_right_eq_some, Option.some.injEq] at h
  obtain ⟨t, ht, -, rfl⟩ := h
  exact afterFolded?_suffix ht

theorem startTag?_leavesEnd (element : Text) : LeavesEnd (startTag? element) := by
  intro s r h
  simp only [startTag?, Option.bind_eq_bind, Option.bind_eq_some_iff] at h
  obtain ⟨t, ht, h⟩ := h
  have hname : startTagName? element s = some t := ht
  exact (after?_suffix h).trans
    ((List.dropWhile_suffix _).trans (startTagName?_leavesEnd element s t hname))

/-- What is found splits the text where the recogniser succeeds. -/
structure Finds (recognise : Text → Option Text) (s : Text) (f : Found) : Prop where
  splits : s = f.before ++ (f.tag ++ f.after)
  here : recognise (f.tag ++ f.after) = some f.after

theorem finds_here (h : LeavesEnd recognise) (hs : recognise s = some rest) :
    Finds recognise s ⟨[], covered s rest, rest⟩ := by
  have heq := covered_append (h s rest hs)
  exact ⟨heq.symm, heq.symm ▸ hs⟩

theorem Finds.cons (h : Finds recognise s f) (c : CodePoint) :
    Finds recognise (c :: s) { f with before := c :: f.before } :=
  ⟨congrArg (c :: ·) h.splits, h.here⟩

theorem finds_first? (h : LeavesEnd recognise) (hf : first? recognise s = some f) :
    Finds recognise s f := by
  induction s generalizing f with
  | nil => cases hf
  | cons c s ih =>
    rw [first?] at hf
    split at hf
    · next rest hs =>
      cases hf
      exact finds_here h hs
    · obtain ⟨found, hfound, rfl⟩ := Option.map_eq_some_iff.mp hf
      exact (ih hfound).cons c

theorem finds_last? (h : LeavesEnd recognise) (hf : last? recognise s = some f) :
    Finds recognise s f := by
  induction s generalizing f with
  | nil => cases hf
  | cons c s ih =>
    rw [last?] at hf
    split at hf
    · next f hs =>
      cases hf
      exact (ih hs).cons c
    · obtain ⟨rest, hs, rfl⟩ := Option.map_eq_some_iff.mp hf
      exact finds_here h hs

/-- The text starts with the word in letters of any case, or with as much of it as there is. -/
def mayStart : Text → Text → Bool
  | [], _ => true
  | _ :: _, [] => true
  | p :: word, c :: t => p = c.fold && mayStart word t

theorem mayStart_append (h : mayStart word s = false) (t : Text) :
    mayStart word (s ++ t) = false := by
  induction word generalizing s with
  | nil => cases h
  | cons p word ih =>
    cases s with
    | nil => cases h
    | cons c s =>
      rw [mayStart, Bool.and_eq_false_iff] at h
      rw [List.cons_append, mayStart, Bool.and_eq_false_iff]
      exact h.imp_right ih

theorem afterFolded?_eq_none (h : mayStart word t = false) : afterFolded? word t = none := by
  induction word generalizing t with
  | nil => cases h
  | cons p word ih =>
    cases t with
    | nil => cases h
    | cons c t =>
      rw [mayStart, Bool.and_eq_false_iff, decide_eq_false_iff_not] at h
      rw [afterFolded?]
      split
      · next hp => exact ih (h.resolve_left fun hne => hne hp)
      · rfl

/-- The word starts nowhere in the text, in letters of any case and whatever follows. -/
def freeOf (word : Text) : Text → Bool
  | [] => true
  | c :: t => !mayStart word (c :: t) && freeOf word t

theorem freeOf_cons :
    freeOf word (c :: t) = true ↔ mayStart word (c :: t) = false ∧ freeOf word t = true := by
  rw [freeOf, Bool.and_eq_true, Bool.not_eq_true']

theorem freeOf_append (hs : freeOf word s = true) (ht : freeOf word t = true) :
    freeOf word (s ++ t) = true := by
  induction s with
  | nil => exact ht
  | cons c s ih =>
    rw [freeOf_cons] at hs
    rw [List.cons_append, freeOf_cons]
    exact ⟨mayStart_append hs.1 t, ih hs.2⟩

theorem freeOf_right (h : freeOf word (s ++ t) = true) : freeOf word t = true := by
  induction s with
  | nil => exact h
  | cons c s ih => exact ih (freeOf_cons.mp h).2

theorem afterFolded?_of_freeOf (h : freeOf word t = true) (ht : t ≠ []) (more : Text) :
    afterFolded? word (t ++ more) = none := by
  cases t with
  | nil => exact absurd rfl ht
  | cons c t => exact afterFolded?_eq_none (mayStart_append (freeOf_cons.mp h).1 more)

theorem eq_of_fold_eq {p : CodePoint} (hp : p.isAsciiLetter = false) (h : c.fold = p) : c = p := by
  subst h
  rw [CodePoint.fold] at hp ⊢
  split at hp
  · exact absurd hp (by decide)
  split at hp
  · exact absurd hp (by decide)
  split at hp
  · exact absurd hp (by decide)
  · next hs hi hk =>
    rw [if_neg hs, if_neg hi, if_neg hk]
    exact eq_of_toAsciiLower_eq hp rfl

/-- Without the mark of a tag, no tag starts. -/
theorem freeOf_of_markless (h : markless t = true) : freeOf ('<' :: word) t = true := by
  induction t with
  | nil => rfl
  | cons c t ih =>
    rw [markless, List.all_cons, Bool.and_eq_true, decide_eq_true_eq] at h
    refine freeOf_cons.mpr ⟨?_, ih h.2⟩
    rw [mayStart, Bool.and_eq_false_iff, decide_eq_false_iff_not]
    exact .inl fun hc => h.1 (eq_of_fold_eq (by decide) hc.symm)

theorem isSome_afterFolded?_append (h : (afterFolded? word s).isSome = true) (t : Text) :
    (afterFolded? word (s ++ t)).isSome = true := by
  induction word generalizing s with
  | nil => rfl
  | cons p word ih =>
    cases s with
    | nil => cases h
    | cons c s =>
      rw [afterFolded?] at h
      rw [List.cons_append, afterFolded?]
      split at h
      · next hp =>
        rw [if_pos hp]
        exact ih h
      · cases h

/-- What starts with a word does not start in a text in which the word does not. -/
theorem infix_of_freeOf (hfree : freeOf word s = true) {t u : Text}
    (ht : (afterFolded? word t).isSome = true) (h : t <:+: s ++ u) : t <:+: u := by
  induction s with
  | nil => exact h
  | cons c s ih =>
    rcases List.infix_cons_iff.mp h with ⟨r, hr⟩ | h
    · have hsome := isSome_afterFolded?_append ht r
      have hnone : afterFolded? word (t ++ r) = none :=
        hr ▸ afterFolded?_of_freeOf hfree (List.cons_ne_nil c s) u
      rw [hnone] at hsome
      cases hsome
    · exact ih (freeOf_cons.mp hfree).2 h

/-- The recogniser succeeds only where the word starts. -/
def StartsWith (word : Text) (recognise : Text → Option Text) : Prop :=
  ∀ s r, recognise s = some r → (afterFolded? word s).isSome = true

theorem StartsWith.eq_none (h : StartsWith word recognise) (hs : afterFolded? word s = none) :
    recognise s = none := by
  cases hr : recognise s with
  | none => rfl
  | some r =>
    have hsome := h s r hr
    rw [hs] at hsome
    cases hsome

theorem endTag?_startsWith (element : Text) : StartsWith ("</" ++ element) (endTag? element) := by
  intro s r h
  simp only [endTag?, Option.bind_eq_bind, Option.bind_eq_some_iff] at h
  obtain ⟨t, ht, -⟩ := h
  exact Option.isSome_of_eq_some ht

theorem startTagName?_startsWith (element : Text) :
    StartsWith ('<' :: element) (startTagName? element) := by
  intro s r h
  simp only [startTagName?, afterWord?, Option.bind_eq_bind, Option.bind_eq_some_iff] at h
  obtain ⟨t, ht, -⟩ := h
  exact Option.isSome_of_eq_some ht

/-- What was found, in a longer text. -/
def Found.behind (front : Text) (f : Found) : Found := { f with before := front ++ f.before }

/-- A search passes by a text in which the word does not start. -/
theorem first?_append (h : StartsWith word recognise) (hs : freeOf word s = true) (t : Text) :
    first? recognise (s ++ t) = (first? recognise t).map (Found.behind s) := by
  induction s with
  | nil => exact Option.map_id'.symm
  | cons c s ih =>
    have hnone := h.eq_none (afterFolded?_of_freeOf hs (List.cons_ne_nil c s) t)
    rw [List.cons_append] at hnone ⊢
    rw [first?, hnone, ih (freeOf_cons.mp hs).2, Option.map_map]
    rfl

theorem last?_append (h : StartsWith word recognise) (hs : freeOf word s = true) (t : Text) :
    last? recognise (s ++ t) = (last? recognise t).map (Found.behind s) := by
  induction s with
  | nil => exact Option.map_id'.symm
  | cons c s ih =>
    have hnone := h.eq_none (afterFolded?_of_freeOf hs (List.cons_ne_nil c s) t)
    rw [List.cons_append] at hnone ⊢
    rw [last?, hnone, ih (freeOf_cons.mp hs).2]
    cases last? recognise t <;> rfl

end Markup

end SitePreview
