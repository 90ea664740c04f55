import SitePreview.Markup.Escape
import Mathlib.Data.List.Infix

/-! Texts that stay inside an element: nothing in them looks like the start of its end tag. Texts
without the mark of a tag do, texts with their end tags escaped do, and so do such texts with
something between them that no end tag holds. -/

namespace SitePreview.Markup

open Text

/-- The start of an end tag, at which the element would be closed. -/
def endMark (element : Text) : Text := '<' :: '/' :: element

/-- The text does not hold the start of an end tag of the element, in ASCII letters of any case. -/
def StaysInside (element t : Text) : Prop := ¬ endMark element <:+: t.toLower

instance (element t : Text) : Decidable (StaysInside element t) :=
  inferInstanceAs (Decidable (¬ _))

/-- A name of small ASCII letters. -/
def IsLowerName (element : Text) : Prop := ∀ c ∈ element, c.isAsciiLower = true

theorem isLowerName_script : IsLowerName "script" := by
  unfold IsLowerName
  decide

theorem isLowerName_style : IsLowerName "style" := by
  unfold IsLowerName
  decide

/-- A code point that no end tag holds, up to the name in it. -/
def IsOutside (c : CodePoint) : Prop := c.isAsciiLetter = false ∧ c ≠ '<' ∧ c ≠ '/'

variable {element name a b t q : Text} {c p : CodePoint}

theorem toAsciiLower_of_not_letter (h : c.isAsciiLetter = false) : c.toAsciiLower = c := by
  rw [CodePoint.isAsciiLetter, Bool.or_eq_false_iff] at h
  rw [CodePoint.toAsciiLower, dif_neg (by simp [h.1])]

theorem eq_of_toAsciiLower_eq (hp : p.isAsciiLetter = false) (h : c.toAsciiLower = p) : c = p := by
  rw [CodePoint.toAsciiLower] at h
  split at h
  · next hupper =>
    subst h
    simp only [CodePoint.isAsciiLetter, CodePoint.isAsciiUpper, CodePoint.isAsciiLower,
      Bool.or_eq_false_iff, Bool.and_eq_true, Bool.and_eq_false_iff, decide_eq_true_eq,
      decide_eq_false_iff_not] at hupper hp
    omega
  · exact h

/-- An ASCII code point that another becomes as a small letter is the one that it stands for. -/
theorem fold_eq_of_toAsciiLower_eq (hp : p.val < 0x80) (h : c.toAsciiLower = p) : c.fold = p := by
  have hc : c.val < 0x80 := by
    subst h
    rw [CodePoint.toAsciiLower] at hp
    split at hp
    · simp only at hp
      omega
    · exact hp
  rw [CodePoint.fold, if_neg (by omega), if_neg (by omega), if_neg (by omega), h]

theorem ascii_of_isAsciiLower (h : p.isAsciiLower = true) : p.val < 0x80 ∧ p ≠ '<' := by
  simp only [CodePoint.isAsciiLower, Bool.and_eq_true, decide_eq_true_eq] at h
  refine ⟨by omega, fun hp => ?_⟩
  subst hp
  exact absurd h.1 (by decide)

/-- What occurs around something that it does not hold occurs at one side of it. -/
theorem infix_of_infix_append_cons {p a b : Text} (hc : c ∉ p) (h : p <:+: a ++ c :: b) :
    p <:+: a ∨ p <:+: b := by
  rcases List.infix_append_iff.mp h with h | h | ⟨l, r, rfl, hl, hr⟩
  · exact .inl h
  · rcases List.infix_cons_iff.mp h with h | h
    · rcases List.prefix_cons_iff.mp h with rfl | ⟨t, rfl, -⟩
      · exact .inr (List.nil_infix)
      · exact absurd List.mem_cons_self hc
    · exact .inr h
  · rcases List.prefix_cons_iff.mp hr with rfl | ⟨t, rfl, -⟩
    · rw [List.append_nil]
      exact .inl hl.isInfix
    · exact absurd (List.mem_append_right _ List.mem_cons_self) hc

/-- The text holds no mark of a tag. -/
def markless (t : Text) : Bool := t.all fun c => c ≠ '<'

/-- Behind every mark in the text, something else than a slash stands in it. -/
def endTagless : Text → Bool
  | [] => true
  | c :: s => (c ≠ '<' || s.head?.any fun d : CodePoint => d ≠ '/') && endTagless s

theorem markless_append (a b : Text) : markless (a ++ b) = (markless a && markless b) :=
  List.all_append

theorem endTagless_append (ha : endTagless a = true) (hb : endTagless b = true) :
    endTagless (a ++ b) = true := by
  induction a with
  | nil => exact hb
  | cons c a ih =>
    rw [endTagless, Bool.and_eq_true] at ha
    rw [List.cons_append, endTagless, Bool.and_eq_true]
    refine ⟨?_, ih ha.2⟩
    cases a with
    | nil => simp [show ¬ c = '<' by simpa using ha.1]
    | cons d a => exact ha.1

theorem endTagless_of_markless (h : markless t = true) : endTagless t = true := by
  induction t with
  | nil => rfl
  | cons c s ih =>
    rw [markless, List.all_cons, Bool.and_eq_true] at h
    rw [endTagless, h.1, Bool.true_or, Bool.true_and]
    exact ih h.2

theorem staysInside_of_endTagless (h : endTagless t = true) : StaysInside element t := by
  induction t with
  | nil => simp [StaysInside, endMark, toLower]
  | cons c s ih =>
    rw [endTagless, Bool.and_eq_true] at h
    intro hinfix
    rcases List.infix_cons_iff.mp hinfix with hprefix | hinfix
    · rw [endMark, List.cons_prefix_cons] at hprefix
      obtain rfl : c = '<' := eq_of_toAsciiLower_eq (by decide) hprefix.1.symm
      cases s with
      | nil => simp at hprefix
      | cons d s =>
        rw [List.map_cons, List.cons_prefix_cons] at hprefix
        obtain rfl : d = '/' := eq_of_toAsciiLower_eq (by decide) hprefix.2.1.symm
        simp at h
    · exact ih h.2 hinfix

/-- The marks of tags and the quotes. -/
def marks : Text := ['<', '>', '"', '\'']

/-- An escaped text holds no marks. -/
theorem forall_mem_escape (t : Text) : ∀ c ∈ escape t, c ∉ marks := by
  refine List.forall_mem_flatMap.mpr fun c _ => ?_
  unfold escapePoint
  split
  · decide
  split
  · decide
  split
  · decide
  split
  · decide
  split
  · decide
  · next htag hend hquote hquote' => simp [marks, htag, hend, hquote, hquote']

theorem markless_escape (t : Text) : markless (escape t) = true := by
  refine List.all_eq_true.mpr fun c hc => decide_eq_true ?_
  rintro rfl
  exact forall_mem_escape t _ hc (by decide)

theorem StaysInside.append_cons (ha : StaysInside element a) (hb : StaysInside element b)
    (hname : IsLowerName element) (hc : IsOutside c) : StaysInside element (a ++ c :: b) := by
  obtain ⟨hletter, hmark, hslash⟩ := hc
  have hmem : c ∉ endMark element := by
    intro h
    rcases List.mem_cons.mp h with rfl | h
    · exact hmark rfl
    rcases List.mem_cons.mp h with rfl | h
    · exact hslash rfl
    · simp [CodePoint.isAsciiLetter, hname c h] at hletter
  intro h
  rw [toLower, List.map_append, List.map_cons, toAsciiLower_of_not_letter hletter] at h
  exact (infix_of_infix_append_cons hmem h).elim ha hb

theorem staysInside_nil (element : Text) : StaysInside element [] :=
  staysInside_of_endTagless rfl

/-- What stands in a text that stays inside does so as well. -/
theorem StaysInside.of_infix (h : StaysInside element t) (ha : a <:+: t) : StaysInside element a :=
  fun hmark => h (hmark.trans (ha.map _))

/-- No end tag starts in a text without marks. -/
theorem StaysInside.markless_append (ha : markless a = true) (hb : StaysInside element b) :
    StaysInside element (a ++ b) := by
  induction a with
  | nil => exact hb
  | cons c a ih =>
    rw [markless, List.all_cons, Bool.and_eq_true, decide_eq_true_eq] at ha
    intro hinfix
    rcases List.infix_cons_iff.mp hinfix with hprefix | hinfix
    · rw [endMark, List.cons_prefix_cons] at hprefix
      exact ha.1 (eq_of_toAsciiLower_eq (by decide) hprefix.1.symm)
    · exact ih ha.2 hinfix

/-- Texts that stay inside do so with something between them that no end tag holds. -/
theorem staysInside_join {separator : Text} {ts : List Text} (hne : separator ≠ [])
    (hseparator : ∀ c ∈ separator, IsOutside c) (h : ∀ t ∈ ts, StaysInside element t)
    (hname : IsLowerName element) : StaysInside element (join separator ts) := by
  obtain ⟨c, cs, rfl⟩ := List.exists_cons_of_ne_nil hne
  rw [List.forall_mem_cons] at hseparator
  have hcs : markless cs = true :=
    List.all_eq_true.mpr fun d hd => decide_eq_true (hseparator.2 d hd).2.1
  induction ts with
  | nil => exact staysInside_nil element
  | cons t ts ih =>
    rw [List.forall_mem_cons] at h
    cases ts with
    | nil => exact h.1
    | cons u us =>
      rw [join, List.append_assoc]
      exact h.1.append_cons ((ih h.2).markless_append hcs) hname hseparator.1

theorem isOutside_lineFeed : IsOutside '\n' := ⟨by decide, by decide, by decide⟩

theorem staysInside_ofLines {ts : List Text} (h : ∀ t ∈ ts, StaysInside element t)
    (hname : IsLowerName element) : StaysInside element (ofLines ts) :=
  staysInside_join (List.cons_ne_nil _ _) (List.forall_mem_singleton.mpr isOutside_lineFeed) h hname

/-- Without marks, what an escaped text starts with is what the text starts with. -/
theorem prefix_of_prefix_escapeEndTags (hq : ∀ p ∈ q, p ≠ '<')
    (h : q <+: (escapeEndTags element t).toLower) : q <+: t.toLower := by
  induction q generalizing t with
  | nil => exact List.nil_prefix
  | cons p q ih =>
    rw [List.forall_mem_cons] at hq
    cases t with
    | nil => exact h
    | cons c s =>
      rw [escapeEndTags] at h
      split at h
      · next hmarked =>
        obtain ⟨rfl, -⟩ := hmarked
        rw [toLower, List.map_cons, List.cons_prefix_cons] at h
        exact absurd h.1 hq.1
      · rw [toLower, List.map_cons, List.cons_prefix_cons] at h
        exact List.cons_prefix_cons.mpr ⟨h.1, ih hq.2 h.2⟩

theorem isSome_afterFolded?_of_prefix (hq : ∀ p ∈ q, p.val < 0x80) (h : q <+: t.toLower) :
    (afterFolded? q t).isSome = true := by
  induction q generalizing t with
  | nil => rfl
  | cons p q ih =>
    rw [List.forall_mem_cons] at hq
    cases t with
    | nil => simp [toLower] at h
    | cons c s =>
      rw [toLower, List.map_cons, List.cons_prefix_cons] at h
      rw [afterFolded?, if_pos (fold_eq_of_toAsciiLower_eq hq.1 h.1.symm).symm]
      exact ih hq.2 h.2

theorem ascii_of_slash_name (hname : IsLowerName name) :
    ∀ p ∈ ('/' :: name : Text), p.val < 0x80 ∧ p ≠ '<' :=
  List.forall_mem_cons.mpr ⟨by decide, fun p hp => ascii_of_isAsciiLower (hname p hp)⟩

/-- The start of an end tag in an escaped text stood in the text and was not one to escape. -/
theorem exists_unescaped (hname : IsLowerName name)
    (h : endMark name <:+: (escapeEndTags element t).toLower) :
    ∃ s : Text, ('<' :: s : Text) <:+ t ∧ ('/' :: name : Text) <+: s.toLower ∧
      afterFolded? ('/' :: element) s = none := by
  induction t with
  | nil => exact absurd h (staysInside_nil name)
  | cons c t ih =>
    rw [escapeEndTags] at h
    split at h
    · next hmarked =>
      -- a backslash stands between the mark and the slash
      obtain ⟨rfl, -⟩ := hmarked
      rcases List.infix_cons_iff.mp h with h | h
      · rw [endMark, List.cons_prefix_cons, List.map_cons, List.cons_prefix_cons] at h
        exact absurd h.2.1 (by decide)
      rcases List.infix_cons_iff.mp h with h | h
      · rw [endMark, List.cons_prefix_cons] at h
        exact absurd h.1 (by decide)
      · obtain ⟨s, hs, hslash, hnone⟩ := ih h
        exact ⟨s, hs.trans (List.suffix_cons _ t), hslash, hnone⟩
    · next hplain =>
      rcases List.infix_cons_iff.mp h with h | h
      · rw [endMark, List.cons_prefix_cons] at h
        obtain rfl : c = '<' := eq_of_toAsciiLower_eq (by decide) h.1.symm
        have hslash := prefix_of_prefix_escapeEndTags
          (fun p hp => (ascii_of_slash_name hname p hp).2) h.2
        refine ⟨t, List.suffix_rfl, hslash, ?_⟩
        simpa using hplain
      · obtain ⟨s, hs, hslash, hnone⟩ := ih h
        exact ⟨s, hs.trans (List.suffix_cons c t), hslash, hnone⟩

/-- A text with its end tags escaped stays inside the element. -/
theorem staysInside_escapeEndTags (hname : IsLowerName element) (t : Text) :
    StaysInside element (escapeEndTags element t) := by
  intro h
  obtain ⟨s, -, hslash, hnone⟩ := exists_unescaped hname h
  have hsome := isSome_afterFolded?_of_prefix
    (fun p hp => (ascii_of_slash_name hname p hp).1) hslash
  rw [hnone] at hsome
  cases hsome

/-- The escape of one element's end tags makes no end tag of another. -/
theorem StaysInside.escapeEndTags (h : StaysInside name t) (hname : IsLowerName name)
    (element : Text) : StaysInside name (escapeEndTags element t) := by
  intro hinfix
  obtain ⟨s, ⟨front, rfl⟩, hslash, -⟩ := exists_unescaped hname hinfix
  refine h ?_
  rw [toLower, List.map_append]
  exact (List.cons_prefix_cons.mpr ⟨rfl, hslash⟩).isInfix.trans (List.suffix_append _ _).isInfix

/-- A tag behind a text that stays inside makes no end tag with it. -/
theorem StaysInside.append_mark (ha : StaysInside element a)
    (hb : StaysInside element ('<' :: b)) (hname : IsLowerName element) :
    StaysInside element (a ++ ('<' :: b : Text)) := by
  intro h
  rw [toLower, List.map_append] at h
  rcases List.infix_append_iff.mp h with h | h | ⟨l, r, hlr, hl, hr⟩
  · exact ha h
  · exact hb h
  rcases List.prefix_cons_iff.mp hr with rfl | ⟨r', rfl, -⟩
  · rw [List.append_nil] at hlr
    exact ha (hlr ▸ hl.isInfix)
  cases l with
  | nil => exact hb (hlr ▸ hr.isInfix)
  | cons p l =>
    have hmark : CodePoint.toAsciiLower '<' ∈ ('/' :: element : Text) := by
      rw [(List.cons.inj hlr).2]
      simp
    exact absurd rfl (ascii_of_slash_name hname _ hmark).2

end SitePreview.Markup
