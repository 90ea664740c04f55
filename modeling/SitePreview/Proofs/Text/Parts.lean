import SitePreview.Text.Blank
import SitePreview.Text.Word
import Mathlib.Data.List.DropRight

/-! Texts in parts: runs of a class of code points, what is left of a text without such runs at its
ends, parts between separators, and lines. No blank is part of a word, so a run of blanks or of a
word ends where the other starts, and what is read from a text that is put together is the part that
was put there. -/

namespace SitePreview

namespace CodePoint

variable {c : CodePoint}

theorem inRanges_eq_false_of_disjoint {rs ts : List (Nat × Nat)}
    (h : ∀ r ∈ rs, ∀ t ∈ ts, r.2 < t.1 ∨ t.2 < r.1) (hc : c.inRanges rs = true) :
    c.inRanges ts = false := by
  simp only [inRanges, List.any_eq_true, Bool.and_eq_true, decide_eq_true_eq] at hc
  obtain ⟨r, hr, hlow, hhigh⟩ := hc
  rw [inRanges, List.any_eq_false]
  intro t ht hin
  simp only [Bool.and_eq_true, decide_eq_true_eq] at hin
  have := h r hr t ht
  omega

theorem isBlank_ascii (hlow : c.val < 128) (h : c.isBlank = true) : c.val ≤ 32 := by
  simp only [isBlank, inRanges, List.any_cons, List.any_nil, Bool.or_eq_true, Bool.and_eq_true,
    decide_eq_true_eq, Bool.or_false] at h
  omega

/-- No blank is part of a word. -/
theorem isIdentifierPart_of_isBlank (h : c.isBlank = true) : c.isIdentifierPart = false := by
  have hne : c ≠ ofChar '$' := by
    rintro rfl
    exact absurd h (by decide)
  have hword : c.isWord = false := by
    rw [isWord]
    split
    · next hlow =>
      have hle := isBlank_ascii hlow h
      have hscore : c ≠ ofChar '_' := by
        rintro rfl
        exact absurd hle (by decide)
      simp only [isAsciiLetter, isAsciiUpper, isAsciiLower, isAsciiDigit, hscore, decide_false,
        Bool.or_false, Bool.or_eq_false_iff, Bool.and_eq_false_iff, decide_eq_false_iff_not]
      omega
    · exact inRanges_eq_false_of_disjoint (by decide +kernel) h
  simp [isIdentifierPart, hword, hne]

theorem isBlank_of_isIdentifierPart (h : c.isIdentifierPart = true) : c.isBlank = false := by
  cases hb : c.isBlank with
  | false => rfl
  | true => simp [isIdentifierPart_of_isBlank hb] at h

theorem isBlank_of_isInlineBlank (h : c.isInlineBlank = true) : c.isBlank = true := by
  simp only [isInlineBlank, Bool.or_eq_true, decide_eq_true_eq] at h
  rcases h with rfl | rfl <;> decide

theorem isIdentifierPart_of_isInlineBlank (h : c.isInlineBlank = true) :
    c.isIdentifierPart = false :=
  isIdentifierPart_of_isBlank (isBlank_of_isInlineBlank h)

end CodePoint

namespace Text

open CodePoint

variable {p : CodePoint → Bool} {w t : Text} {c : CodePoint}

/-- The text does not start with a code point of the class. -/
def notAhead (p : CodePoint → Bool) (t : Text) : Bool := t.head?.all fun c => !p c

@[simp] theorem notAhead_nil : notAhead p [] = true := rfl

@[simp] theorem notAhead_cons : notAhead p (c :: t) = !p c := rfl

theorem notAhead_append (hw : w ≠ []) : notAhead p (w ++ t) = notAhead p w := by
  cases w with
  | nil => exact absurd rfl hw
  | cons c w => rfl

/-- A text of one class does not start with a code point of another. -/
theorem notAhead_of_all {q : CodePoint → Bool} (hw : ∀ c ∈ w, q c = true)
    (hpq : ∀ c, q c = true → p c = false) : notAhead p w = true := by
  cases w with
  | nil => rfl
  | cons c w => simp [hpq c (hw c List.mem_cons_self)]

theorem dropWhile_append_stop (hw : ∀ c ∈ w, p c = true) (ht : notAhead p t = true) :
    (w ++ t).dropWhile p = t := by
  rw [List.dropWhile_append_of_pos hw]
  cases t with
  | nil => rfl
  | cons c t => exact List.dropWhile_cons_of_neg (by simpa using ht)

theorem takeWhile_append_stop (hw : ∀ c ∈ w, p c = true) (ht : notAhead p t = true) :
    (w ++ t).takeWhile p = w := by
  rw [List.takeWhile_append_of_pos hw]
  cases t with
  | nil => simp
  | cons c t => rw [List.takeWhile_cons_of_neg (by simpa using ht), List.append_nil]

theorem notAhead_dropWhile (p : CodePoint → Bool) (t : Text) :
    notAhead p (t.dropWhile p) = true := by
  induction t with
  | nil => rfl
  | cons c t ih =>
    rw [List.dropWhile_cons]
    split
    · exact ih
    · next h => simpa using h

/-- What starts in a text that is put together starts in one of the parts. -/
theorem suffix_append_cases {a b v : Text} (h : c :: v <:+ a ++ b) :
    c :: v <:+ b ∨ ∃ u, c :: u <:+ a ∧ v = u ++ b := by
  induction a with
  | nil => exact .inl h
  | cons d a ih =>
    rcases List.suffix_cons_iff.mp h with heq | h
    · obtain ⟨rfl, rfl⟩ := List.cons.inj heq
      exact .inr ⟨a, List.suffix_rfl, rfl⟩
    · rcases ih h with h | ⟨u, hu, rfl⟩
      · exact .inl h
      · exact .inr ⟨u, hu.trans (List.suffix_cons d a), rfl⟩

theorem suffix_append_of_not_mem {a b v : Text} (ha : c ∉ a) (h : c :: v <:+ a ++ b) :
    c :: v <:+ b := by
  rcases suffix_append_cases h with h | ⟨u, hu, -⟩
  · exact h
  · exact absurd (hu.subset List.mem_cons_self) ha

theorem skipInline_of_notAhead (h : notAhead isInlineBlank t = true) : skipInline t = t :=
  dropWhile_append_stop (w := []) (by simp) h

theorem skipBlanks_of_notAhead (h : notAhead CodePoint.isBlank t = true) : skipBlanks t = t :=
  dropWhile_append_stop (w := []) (by simp) h

/-- A word is not found where another word stands, unless that one starts with it. -/
theorem after?_append_eq_none {word : Text} (hword : ∀ c ∈ word, p c = true)
    (hw : ¬word <+: w) (ht : notAhead p t = true) : after? word (w ++ t) = none := by
  induction word generalizing w with
  | nil => exact absurd List.nil_prefix hw
  | cons d word ih =>
    rw [List.forall_mem_cons] at hword
    cases w with
    | nil =>
      cases t with
      | nil => rfl
      | cons c t =>
        have hne : d ≠ c := by
          rintro rfl
          simp [hword.1] at ht
        exact if_neg hne
    | cons c w =>
      rw [List.cons_append, after?]
      split
      · next heq =>
        refine ih hword.2 (fun hpre => hw ?_)
        rw [heq]
        exact List.cons_prefix_cons.mpr ⟨rfl, hpre⟩
      · rfl

theorem skipSomeBlanks?_append {g : Text} (hne : g ≠ []) (hg : ∀ c ∈ g, c.isBlank = true)
    (ht : notAhead CodePoint.isBlank t = true) : skipSomeBlanks? (g ++ t) = some t := by
  cases g with
  | nil => exact absurd rfl hne
  | cons c g =>
    rw [List.forall_mem_cons] at hg
    have hskip : skipBlanks (g ++ t) = t := dropWhile_append_stop hg.2 ht
    simp [skipSomeBlanks?, hg.1, hskip]

/-- A word with white space behind it is read up to what follows. -/
theorem wordAndBlanks?_append {g : Text} (word : Text) (hne : g ≠ [])
    (hg : ∀ c ∈ g, c.isBlank = true) (ht : notAhead CodePoint.isBlank t = true) :
    wordAndBlanks? word (word ++ (g ++ t)) = some t := by
  rw [wordAndBlanks?, after?_append]
  exact skipSomeBlanks?_append hne hg ht

theorem wordAndBlanks?_eq_none {word : Text} (h : after? word t = none) :
    wordAndBlanks? word t = none := by
  rw [wordAndBlanks?, h]
  rfl

section Ends

variable {p q : CodePoint → Bool} {a b t : Text} {c : CodePoint}

theorem dropRightWhile_append (ht : dropRightWhile p t = t) (hb : ∀ c ∈ b, p c = true) :
    dropRightWhile p (t ++ b) = t := by
  rw [dropRightWhile, List.reverse_append, List.dropWhile_append_of_pos (by simpa using hb)]
  exact ht

theorem takeRightWhile_append_cons (hc : p c = false) (hb : ∀ d ∈ b, p d = true) :
    takeRightWhile p (a ++ c :: b) = b := by
  rw [takeRightWhile, List.reverse_append, List.reverse_cons, List.append_assoc,
    takeWhile_append_stop (by simpa using hb) (by simpa using hc), List.reverse_reverse]

theorem dropRightWhile_concat (hc : p c = false) (t : Text) :
    dropRightWhile p (t ++ [c]) = t ++ [c] :=
  List.rdropWhile_concat_neg p t c (by simp [hc])

theorem dropRightWhile_of_imp (hpq : ∀ c, q c = true → p c = true) (ht : dropRightWhile p t = t) :
    dropRightWhile q t = t := by
  have hlast := List.rdropWhile_eq_self_iff.mp ht
  exact List.rdropWhile_eq_self_iff.mpr fun hne hq => hlast hne (hpq _ hq)

theorem notAhead_of_imp (hpq : ∀ c, q c = true → p c = true) (ht : notAhead p t = true) :
    notAhead q t = true := by
  cases t with
  | nil => rfl
  | cons c t =>
    rw [notAhead_cons, Bool.not_eq_true'] at ht ⊢
    exact Bool.eq_false_iff.mpr fun hq => by simp [hpq c hq] at ht

/-- A text is its own middle only without white space at both ends. -/
theorem ends_of_strip_eq (h : t.strip = t) :
    skipBlanks t = t ∧ dropRightWhile CodePoint.isBlank t = t := by
  have hskip : skipBlanks t <:+ t := List.dropWhile_suffix _
  have hstrip : t.strip <+: skipBlanks t := List.rdropWhile_prefix _ _
  rw [h] at hstrip
  have heq : skipBlanks t = t := hskip.eq_of_length_le hstrip.length_le
  refine ⟨heq, ?_⟩
  rwa [strip, heq] at h

theorem notAhead_isBlank_of_strip_eq (h : t.strip = t) : notAhead CodePoint.isBlank t = true := by
  cases t with
  | nil => rfl
  | cons c t =>
    have hhead := List.dropWhile_eq_self_iff.mp (ends_of_strip_eq h).1 (by simp)
    simpa using hhead

/-- White space around a text that has none at its ends is taken away. -/
theorem strip_append (h : t.strip = t) (hne : t ≠ []) (ha : ∀ c ∈ a, c.isBlank = true)
    (hb : ∀ c ∈ b, c.isBlank = true) : strip (a ++ (t ++ b)) = t := by
  have hahead : notAhead CodePoint.isBlank (t ++ b) = true := by
    rw [notAhead_append hne]
    exact notAhead_isBlank_of_strip_eq h
  rw [strip, skipBlanks, dropWhile_append_stop ha hahead]
  exact dropRightWhile_append (ends_of_strip_eq h).2 hb

theorem dropRightWhile_isPrefix (p : CodePoint → Bool) (t : Text) : dropRightWhile p t <+: t :=
  List.rdropWhile_prefix p t

theorem strip_isInfix (t : Text) : t.strip <:+: t :=
  (dropRightWhile_isPrefix _ _).isInfix.trans (List.dropWhile_suffix _).isInfix

theorem strip_strip (t : Text) : t.strip.strip = t.strip := by
  have hlast : dropRightWhile CodePoint.isBlank t.strip = t.strip := List.rdropWhile_idempotent _ _
  have hhead : skipBlanks t.strip = t.strip := by
    refine skipBlanks_of_notAhead ?_
    cases hstrip : t.strip with
    | nil => rfl
    | cons c s =>
      -- the text without leading white space starts alike
      obtain ⟨u, hu⟩ := dropRightWhile_isPrefix CodePoint.isBlank (skipBlanks t)
      rw [strip] at hstrip
      rw [hstrip] at hu
      have hskip : t.dropWhile CodePoint.isBlank = c :: (s ++ u) := hu.symm
      have hc := List.head?_dropWhile_not CodePoint.isBlank t
      rw [hskip] at hc
      simpa using hc
  rw [strip, hhead, hlast]

theorem strip_eq_nil_iff : t.strip = [] ↔ ∀ c ∈ t, c.isBlank = true := by
  constructor
  · intro h c hc
    have hskip := List.rdropWhile_eq_nil_iff.mp h
    rw [← List.takeWhile_append_dropWhile (p := CodePoint.isBlank) (l := t), List.mem_append] at hc
    rcases hc with hc | hc
    · exact List.mem_takeWhile_imp hc
    · exact hskip c hc
  · intro h
    have hskip : skipBlanks t = [] := List.dropWhile_eq_nil_iff.mpr h
    rw [strip, hskip]
    rfl

/-- Behind a text that has no white space in front there is only white space that is taken away. -/
theorem exists_strip_append (h : notAhead CodePoint.isBlank t = true) :
    ∃ blank : Text, t = t.strip ++ blank ∧ ∀ c ∈ blank, c.isBlank = true := by
  rw [strip, skipBlanks_of_notAhead h]
  exact ⟨t.rtakeWhile CodePoint.isBlank, List.rdropWhile_append_rtakeWhile.symm,
    fun c hc => List.mem_rtakeWhile_imp hc⟩

end Ends

section Splitting

variable {separator c : CodePoint} {s t part : Text} {parts others : List Text}

theorem splitOn_of_not_mem (h : separator ∉ t) : t.splitOn separator = [t] := by
  induction t with
  | nil => rfl
  | cons c t ih =>
    rw [List.mem_cons, not_or] at h
    rw [splitOn, if_neg (Ne.symm h.1), ih h.2]

theorem splitOn_append (separator : CodePoint) (s t : Text) :
    splitOn separator (s ++ separator :: t) = splitOn separator s ++ splitOn separator t := by
  induction s with
  | nil => simp [splitOn]
  | cons c s ih =>
    rw [List.cons_append, splitOn, splitOn, ih]
    split
    · rfl
    · cases hs : splitOn separator s with
      | nil => exact absurd hs (splitOn_ne_nil separator s)
      | cons part parts => rfl

theorem not_mem_of_mem_splitOn (h : part ∈ s.splitOn separator) : separator ∉ part := by
  induction s generalizing part with
  | nil => simp_all [splitOn]
  | cons c s ih =>
    rw [splitOn] at h
    split at h
    · rcases List.mem_cons.mp h with rfl | h
      · exact List.not_mem_nil
      · exact ih h
    · next hc =>
      cases hs : splitOn separator s with
      | nil => exact absurd hs (splitOn_ne_nil separator s)
      | cons first parts =>
        rw [hs] at h ih
        rcases List.mem_cons.mp h with rfl | h
        · exact fun hmem => (List.mem_cons.mp hmem).elim (fun h => hc h.symm)
            (ih List.mem_cons_self)
        · exact ih (List.mem_cons_of_mem _ h)

/-- A joined text is split into the parts it is joined of. -/
theorem splitOn_join (hne : parts ≠ []) (hparts : ∀ part ∈ parts, separator ∉ part) :
    splitOn separator (join [separator] parts) = parts := by
  induction parts with
  | nil => exact absurd rfl hne
  | cons part parts ih =>
    rw [List.forall_mem_cons] at hparts
    cases parts with
    | nil => exact splitOn_of_not_mem hparts.1
    | cons next parts =>
      rw [join, List.append_assoc, List.singleton_append, splitOn_append,
        splitOn_of_not_mem hparts.1, ih (by simp) hparts.2]
      rfl

theorem join_inj (hne : parts ≠ []) (hne' : others ≠ [])
    (hparts : ∀ part ∈ parts, separator ∉ part) (hothers : ∀ part ∈ others, separator ∉ part)
    (h : join [separator] parts = join [separator] others) : parts = others := by
  rw [← splitOn_join hne hparts, h, splitOn_join hne' hothers]

theorem mem_join {separator : Text} (h : c ∈ join separator parts) :
    c ∈ separator ∨ ∃ part ∈ parts, c ∈ part := by
  induction parts with
  | nil => cases h
  | cons part parts ih =>
    cases parts with
    | nil => exact .inr ⟨part, List.mem_singleton_self part, h⟩
    | cons next parts =>
      rw [join, List.mem_append, List.mem_append] at h
      rcases h with (h | h) | h
      · exact .inr ⟨part, List.mem_cons_self, h⟩
      · exact .inl h
      · obtain hc | ⟨part, hmem, hc⟩ := ih h
        · exact .inl hc
        · exact .inr ⟨part, List.mem_cons_of_mem _ hmem, hc⟩

theorem mem_join_of_mem {separator : Text} (hpart : part ∈ parts) (hc : c ∈ part) :
    c ∈ join separator parts := by
  induction parts with
  | nil => cases hpart
  | cons first parts ih =>
    cases parts with
    | nil => exact List.mem_singleton.mp hpart ▸ hc
    | cons next parts =>
      rw [join, List.mem_append, List.mem_append]
      rcases List.mem_cons.mp hpart with rfl | hpart
      · exact .inl (.inl hc)
      · exact .inr (ih hpart)

theorem length_le_length_join (separator : Text) (h : ∀ part ∈ parts, part ≠ []) :
    parts.length ≤ (join separator parts).length := by
  induction parts with
  | nil => exact Nat.zero_le _
  | cons part parts ih =>
    rw [List.forall_mem_cons] at h
    have hpart := List.length_pos_iff.mpr h.1
    cases parts with
    | nil => exact hpart
    | cons next parts =>
      have hparts := ih h.2
      rw [join, List.length_append, List.length_append, List.length_cons]
      omega

/-- In front of further parts each part has the separator behind it. -/
theorem join_append {separator : Text} (parts : List Text) (hne : others ≠ []) :
    join separator (parts ++ others) = (parts.flatMap fun part => part ++ separator) ++
      join separator others := by
  induction parts with
  | nil => rfl
  | cons part parts ih =>
    rw [List.cons_append, join_cons _ _ (List.append_ne_nil_of_right_ne_nil _ hne), ih,
      List.flatMap_cons, List.append_assoc, List.append_assoc, List.append_assoc]

end Splitting

section Lines

/-- The lines, each with its line feed, and then the last line, which has none. -/
def unlines : List Text → Text → Text
  | [], last => last
  | l :: ls, last => l ++ ofChar '\n' :: unlines ls last

variable {ls : List Text} {l last : Text}

theorem unlines_append_singleton (ls : List Text) (l last : Text) :
    unlines (ls ++ [l]) last = unlines ls l ++ ofChar '\n' :: last := by
  induction ls with
  | nil => rfl
  | cons m ls ih => simp [unlines, ih]

theorem unlines_append_last (ls : List Text) (l last : Text) :
    unlines ls (l ++ last) = unlines ls l ++ last := by
  induction ls with
  | nil => rfl
  | cons m ls ih => simp [unlines, ih]

/-- Every text is made of lines. -/
theorem exists_unlines (s : Text) :
    ∃ ls last, s = unlines ls last ∧ (∀ l ∈ ls, ofChar '\n' ∉ l) ∧ ofChar '\n' ∉ last := by
  induction s with
  | nil => exact ⟨[], [], rfl, by simp, by simp⟩
  | cons c s ih =>
    obtain ⟨ls, last, rfl, hls, hlast⟩ := ih
    by_cases hc : c = ofChar '\n'
    · exact ⟨[] :: ls, last, by simp [unlines, hc], by simpa using hls, hlast⟩
    · have hc' := Ne.symm hc
      cases ls with
      | nil => exact ⟨[], c :: last, rfl, by simp, by simp [hc', hlast]⟩
      | cons l ls =>
        rw [List.forall_mem_cons] at hls
        refine ⟨(c :: l) :: ls, last, rfl, ?_, hlast⟩
        rw [List.forall_mem_cons]
        exact ⟨by simp [hc', hls.1], hls.2⟩

/-- A text is split at its line feeds into its lines. -/
theorem splitOn_unlines (hls : ∀ l ∈ ls, ofChar '\n' ∉ l) (hlast : ofChar '\n' ∉ last) :
    splitOn '\n' (unlines ls last) = ls ++ [last] := by
  induction ls with
  | nil => exact splitOn_of_not_mem hlast
  | cons l ls ih =>
    rw [List.forall_mem_cons] at hls
    rw [unlines, splitOn_append, splitOn_of_not_mem hls.1, ih hls.2]
    rfl

end Lines

end Text

end SitePreview
