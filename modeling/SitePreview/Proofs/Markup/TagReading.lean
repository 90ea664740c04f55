import SitePreview.Proofs.Markup.Tags

/-! What the search for references reads in a tag. It looks for the name of the attribute at every
word boundary, in names and in values, and it takes the closing mark of the value with which the
rest succeeds. In a tag that reads as it is written this finds the attribute with that name. -/

namespace SitePreview

namespace CodePoint

variable {c : CodePoint}

theorem isAsciiLetter_of_toAsciiLower (h : c.toAsciiLower.isAsciiLower = true) :
    c.isAsciiLetter = true := by
  rw [toAsciiLower] at h
  split at h
  · next hupper => simp [isAsciiLetter, hupper]
  · simp [isAsciiLetter, h]

/-- What stands for a letter regardless of case is part of a word. -/
theorem isWord_of_fold (h : c.fold.isAsciiLower = true) : c.isWord = true := by
  have hspecial : ∀ d ∈ ([⟨0x17F, by decide⟩, ⟨0x130, by decide⟩, ⟨0x131, by decide⟩,
      ⟨0x212A, by decide⟩] : List CodePoint), d.isWord = true := by decide +kernel
  rw [fold] at h
  split at h
  · next hs => exact hspecial c (by simp [CodePoint.ext_iff, hs])
  split at h
  · next hi => exact hspecial c (by rcases hi with hi | hi <;> simp [CodePoint.ext_iff, hi])
  split at h
  · next hk => exact hspecial c (by simp [CodePoint.ext_iff, hk])
  · have hletter := isAsciiLetter_of_toAsciiLower h
    have hlow : c.val < 128 := by
      simp only [isAsciiLetter, isAsciiUpper, isAsciiLower, Bool.or_eq_true, Bool.and_eq_true,
        decide_eq_true_eq] at hletter
      omega
    simp [isWord, hlow, hletter]

theorem isAsciiLower_fold_of_not_isWord (h : c.isWord = false) : c.fold.isAsciiLower = false := by
  cases hfold : c.fold.isAsciiLower with
  | false => rfl
  | true => simp [isWord_of_fold hfold] at h

end CodePoint

namespace Markup

open Text CodePoint

variable {word element r s t u v w : Text} {c q : CodePoint} {b : Bool}
  {tail : Text → Option Text} {p : Text → Bool}

section Words

/-- The text is the word in letters of any case. -/
def reads (word s : Text) : Bool := s.map CodePoint.fold = word

/-- The text is the word with an equals sign behind it. -/
def assigns (word s : Text) : Bool :=
  ((afterFolded? word s).bind fun r => after? "=" (skipBlanks r)).any Text.isBlank

/-- What stands from some word boundary to the end of the text satisfies `p`. -/
def endsWhere (p : Text → Bool) (inWord : Bool) : Text → Bool
  | [] => false
  | c :: s => (!inWord && p (c :: s)) || endsWhere p c.isWord s

/-- The state of a search for a word behind the text. -/
def endsInWord (inWord : Bool) (s : Text) : Bool := (s.getLast?.map isWord).getD inWord

theorem endsInWord_cons (b : Bool) (c : CodePoint) (s : Text) :
    endsInWord b (c :: s) = endsInWord c.isWord s := by
  cases s with
  | nil => rfl
  | cons d s => simp [endsInWord, List.getLast?_cons]

theorem endsWhere_eq_false (h : ∀ v, v <:+ w → p v = false) : endsWhere p b w = false := by
  induction w generalizing b with
  | nil => rfl
  | cons c w ih =>
    rw [endsWhere, h _ List.suffix_rfl, ih fun v hv => h v (hv.trans (List.suffix_cons c w))]
    simp

theorem afterFolded?_append (h : reads word v = true) (s : Text) :
    afterFolded? word (v ++ s) = some s := by
  rw [reads, decide_eq_true_eq] at h
  subst h
  induction v with
  | nil => rfl
  | cons c v ih =>
    rw [List.map_cons, List.cons_append, afterFolded?, if_pos rfl, ih]

theorem exists_of_afterFolded? (h : afterFolded? word s = some r) :
    ∃ v, s = v ++ r ∧ reads word v = true := by
  induction word generalizing s with
  | nil =>
    obtain rfl := Option.some.inj h
    exact ⟨[], rfl, rfl⟩
  | cons p word ih =>
    cases s with
    | nil => simp [afterFolded?] at h
    | cons c s =>
      simp only [afterFolded?, Option.ite_none_right_eq_some] at h
      obtain ⟨rfl, h⟩ := h
      obtain ⟨v, rfl, hv⟩ := ih h
      exact ⟨c :: v, rfl, by simpa [reads] using hv⟩

theorem not_mem_of_isLowerName (hword : IsLowerName word) (hc : c.isAsciiLower = false) :
    c ∉ word := fun h => by simp [hword c h] at hc

/-- A word in front of a mark that is no letter is read in front of it. -/
theorem exists_of_afterFolded?_append (hword : IsLowerName word)
    (hc : c.fold.isAsciiLower = false) (h : afterFolded? word (v ++ c :: t) = some r) :
    ∃ u, afterFolded? word v = some u ∧ r = u ++ c :: t := by
  obtain ⟨w, hw, hread⟩ := exists_of_afterFolded? h
  rcases List.append_eq_append_iff.mp hw with ⟨u, rfl, hu⟩ | ⟨u, rfl, rfl⟩
  · cases u with
    | nil =>
      refine ⟨[], ?_, hu.symm⟩
      rw [List.append_nil] at hread
      simpa using afterFolded?_append hread []
    | cons d u =>
      obtain ⟨rfl, -⟩ := List.cons.inj hu
      rw [reads, decide_eq_true_eq] at hread
      have hmem : c.fold ∈ word := hread ▸ List.mem_map_of_mem (by simp)
      exact absurd hmem (not_mem_of_isLowerName hword hc)
  · exact ⟨u, afterFolded?_append hread u, rfl⟩

end Words

section Here

theorem attributeHere?_of_mismatch (h : afterFolded? word s = none) :
    attributeHere? word tail s = none := by
  rw [attributeHere?, h]
  rfl

/-- No name starts at what is part of no word. -/
theorem attributeHere?_of_not_isWord (hword : IsLowerName word) (hne : word ≠ [])
    (hc : c.isWord = false) : attributeHere? word tail (c :: s) = none := by
  refine attributeHere?_of_mismatch ?_
  cases word with
  | nil => exact absurd rfl hne
  | cons p word =>
    rw [afterFolded?]
    refine if_neg fun hp => ?_
    have hlower := hword p List.mem_cons_self
    rw [hp] at hlower
    rw [isWord_of_fold hlower] at hc
    exact Bool.noConfusion hc

/-- A name that does not read as the word is none. -/
theorem attributeHere?_name (hword : IsLowerName word) (hv : ∀ c ∈ v, isNamePoint c = true)
    (hr : reads word v = false) (t : Text) :
    attributeHere? word tail (v ++ ofChar '=' :: t) = none := by
  cases h : afterFolded? word (v ++ ofChar '=' :: t) with
  | none => exact attributeHere?_of_mismatch h
  | some r =>
    obtain ⟨u, hu, rfl⟩ := exists_of_afterFolded?_append hword (by decide) h
    obtain ⟨w, rfl, hw⟩ := exists_of_afterFolded? hu
    cases u with
    | nil => simp [hw] at hr
    | cons d u =>
      have hd := hv d (by simp)
      simp only [isNamePoint, Bool.not_eq_true', Bool.or_eq_false_iff, decide_eq_false_iff_not]
        at hd
      have hskip : skipBlanks (d :: u ++ ofChar '=' :: t) = d :: u ++ ofChar '=' :: t :=
        skipBlanks_of_notAhead (by simp [hd.1.1.1.1.1.1])
      have hequals : after? "=" (d :: u ++ ofChar '=' :: t) = none := by
        rw [List.cons_append]
        exact if_neg fun h => hd.2 h.symm
      rw [attributeHere?, h, Option.bind_eq_bind, Option.bind_some, hskip, hequals]
      rfl

theorem skipBlanks_append (s t : Text) :
    (s.isBlank = true ∧ skipBlanks (s ++ t) = skipBlanks t) ∨
      ∃ d u, d.isBlank = false ∧ d :: u <:+ s ∧ skipBlanks s = d :: u ∧
        skipBlanks (s ++ t) = d :: u ++ t := by
  induction s with
  | nil => exact .inl ⟨rfl, rfl⟩
  | cons c s ih =>
    by_cases hc : c.isBlank = true
    · have hskip (s : Text) : skipBlanks (c :: s) = skipBlanks s :=
        List.dropWhile_cons_of_pos hc
      rw [List.cons_append, hskip, hskip]
      rcases ih with ⟨hs, h⟩ | ⟨d, u, hd, hu, h1, h2⟩
      · exact .inl ⟨by simpa [Text.isBlank, hc] using hs, h⟩
      · exact .inr ⟨d, u, hd, hu.trans (List.suffix_cons c s), h1, h2⟩
    · refine .inr ⟨c, s, by simpa using hc, List.suffix_rfl, ?_, ?_⟩
      · exact List.dropWhile_cons_of_neg hc
      · exact List.dropWhile_cons_of_neg hc

/-- The end of a value that does not read as an assignment to the word is none. -/
theorem attributeHere?_value (hword : IsLowerName word)
    (hv : ∀ c ∈ v, c ≠ ofChar '"' ∧ c ≠ ofChar '\'') (hq : q = ofChar '"' ∨ q = ofChar '\'')
    (ha : assigns word v = false) (t : Text) :
    attributeHere? word tail (v ++ q :: t) = none := by
  cases h : afterFolded? word (v ++ q :: t) with
  | none => exact attributeHere?_of_mismatch h
  | some r =>
    have hfold : q.fold.isAsciiLower = false := by
      rcases hq with rfl | rfl
      · decide
      · decide
    obtain ⟨u, hu, rfl⟩ := exists_of_afterFolded?_append hword hfold h
    have huv : u <:+ v := afterFolded?_suffix hu
    have hmark : skipBlanks (q :: t) = q :: t := by
      rcases hq with rfl | rfl
      · rfl
      · rfl
    rw [attributeHere?, h, Option.bind_eq_bind, Option.bind_some]
    rcases skipBlanks_append u (q :: t) with ⟨-, hskip⟩ | ⟨d, x, hd, hx, hskip, hskip'⟩
    · have hequals : after? "=" (q :: t) = none := by
        rcases hq with rfl | rfl
        · rfl
        · rfl
      rw [hskip, hmark, hequals]
      rfl
    · rw [hskip']
      by_cases hequals : d = ofChar '='
      · subst hequals
        have hafter (s : Text) : after? "=" (ofChar '=' :: s) = some s := rfl
        rw [List.cons_append, hafter, Option.bind_some]
        rcases skipBlanks_append x (q :: t) with ⟨hblank, -⟩ | ⟨e, y, he, hy, -, hskip2⟩
        · rw [assigns, hu, Option.bind_some, hskip, hafter] at ha
          simp [hblank] at ha
        · rw [hskip2]
          have hmem : e ∈ v := huv.subset (hx.subset (List.mem_cons_of_mem _
            (hy.subset List.mem_cons_self)))
          obtain ⟨h1, h2⟩ := hv e hmem
          exact if_neg (by simp [h1, h2])
      · have hnone : after? "=" (d :: x ++ q :: t) = none := by
          rw [List.cons_append]
          exact if_neg fun h => hequals h.symm
        rw [hnone]
        rfl

theorem quotedValue?_of_some (hw : q ∉ w) (h : tail t = some r) (read : Text) :
    quotedValue? q tail read (w ++ q :: t) = some (read.reverse ++ w, r) := by
  induction w generalizing read with
  | nil => simp [quotedValue?, h]
  | cons c w ih =>
    have hc : c ≠ q := (List.ne_of_not_mem_cons hw).symm
    rw [List.cons_append, quotedValue?, if_neg hc]
    simpa using ih (List.not_mem_of_not_mem_cons hw) (c :: read)

/-- No value is read when the rest succeeds behind none of the marks. -/
theorem quotedValue?_eq_none (h : ∀ v, q :: v <:+ s → tail v = none) (read : Text) :
    quotedValue? q tail read s = none := by
  induction s generalizing read with
  | nil => rfl
  | cons c s ih =>
    have hrest := ih (fun v hv => h v (hv.trans (List.suffix_cons c s))) (c :: read)
    rw [quotedValue?]
    by_cases hc : c = q
    · subst hc
      rw [if_pos rfl, h s List.suffix_rfl]
      exact hrest
    · rw [if_neg hc]
      exact hrest

end Here

section Passing

/-- The search passes a text in which it finds nothing. -/
theorem attribute?_append (hend : ofChar '>' ∉ w) (hp : endsWhere p b w = false)
    (hnone : ∀ v, v <:+ w → v ≠ [] → p v = false → attributeHere? word tail (v ++ t) = none) :
    attribute? word tail b (w ++ t) = attribute? word tail (endsInWord b w) t := by
  induction w generalizing b with
  | nil => rfl
  | cons c w ih =>
    rw [endsWhere, Bool.or_eq_false_iff] at hp
    have hhere : (if b = true then none else attributeHere? word tail (c :: (w ++ t))) = none := by
      cases b with
      | true => rfl
      | false => exact hnone (c :: w) List.suffix_rfl (by simp) (by simpa using hp.1)
    have hc : c ≠ ofChar '>' := (List.ne_of_not_mem_cons hend).symm
    rw [List.cons_append, attribute?, hhere]
    simp only [if_neg hc]
    rw [endsInWord_cons]
    exact ih (List.not_mem_of_not_mem_cons hend) hp.2
      fun v hv => hnone v (hv.trans (List.suffix_cons c w))

variable (hword : IsLowerName word) (hne : word ≠ [])
include hword hne

/-- The search passes what is part of no word. -/
theorem attribute?_marks (hnil : w ≠ []) (hend : ofChar '>' ∉ w)
    (hw : ∀ c ∈ w, c.isWord = false) :
    attribute? word tail b (w ++ t) = attribute? word tail false t := by
  have hstate : endsInWord b w = false := by
    rw [endsInWord, List.getLast?_eq_some_getLast hnil]
    exact hw _ (List.getLast_mem hnil)
  have hpass : attribute? word tail b (w ++ t) = attribute? word tail (endsInWord b w) t := by
    refine attribute?_append (p := fun _ => false) hend (endsWhere_eq_false fun _ _ => rfl) ?_
    intro v hv hvnil _
    obtain ⟨c, u, rfl⟩ := List.exists_cons_of_ne_nil hvnil
    exact attributeHere?_of_not_isWord hword hne (hw c (hv.subset List.mem_cons_self))
  rw [hpass, hstate]

end Passing

section Attributes

theorem isWord_of_isBlank (h : c.isBlank = true) : c.isWord = false := by
  have := isIdentifierPart_of_isBlank h
  rw [isIdentifierPart, Bool.or_eq_false_iff] at this
  exact this.1

namespace Attribute

/-- The attribute is read as it is written: neither does its name only end in the word nor its value
in an assignment to it, and an address in it has plain letters. -/
structure Reads (word : Text) (a : Attribute) : Prop where
  name : endsWhere (reads word) false a.name.text = true → a.name.is word = true
  value : endsWhere (assigns word) false a.value = false
  address : a.name.is word = true → ∀ c ∈ a.value, c.fold = c.toAsciiLower

instance (word : Text) (a : Attribute) : Decidable (a.Reads word) :=
  decidable_of_iff ((endsWhere (reads word) false a.name.text = true → a.name.is word = true) ∧
      endsWhere (assigns word) false a.value = false ∧
      (a.name.is word = true → ∀ c ∈ a.value, c.fold = c.toAsciiLower))
    ⟨fun ⟨hname, hvalue, haddress⟩ => ⟨hname, hvalue, haddress⟩,
      fun h => ⟨h.name, h.value, h.address⟩⟩

variable {a : Attribute}

theorem text_append (a : Attribute) (t : Text) :
    a.text ++ t = a.gap ++ (a.name.text ++
      ofChar '=' :: a.quote :: (a.value ++ a.quote :: t)) := by
  simp [text]

theorem quote_eq (a : Attribute) : a.quote = ofChar '"' ∨ a.quote = ofChar '\'' := by
  simpa using a.quote_mem

theorem quote_isWord (a : Attribute) : a.quote.isWord = false := by
  rcases a.quote_eq with h | h
  · rw [h]
    decide
  · rw [h]
    decide

theorem quote_ne_end (a : Attribute) : a.quote ≠ ofChar '>' := by
  rcases a.quote_eq with h | h
  · rw [h]
    decide
  · rw [h]
    decide

theorem value_ne (a : Attribute) :
    ∀ c ∈ a.value, c ≠ ofChar '"' ∧ c ≠ ofChar '\'' ∧ c ≠ ofChar '<' ∧ c ≠ ofChar '>' := by
  simpa using a.value_free

theorem quote_not_mem (a : Attribute) : a.quote ∉ a.value := fun h => by
  obtain ⟨h1, h2, -⟩ := a.value_ne _ h
  rcases a.quote_eq with hq | hq
  · exact h1 hq
  · exact h2 hq

end Attribute

theorem Name.no_mark (n : Name) (hc : isNamePoint c = false) : c ∉ n.text := fun h => by
  simp [n.points c h] at hc

theorem not_mem_of_blank (hw : ∀ c ∈ w, c.isBlank = true) (hc : c.isBlank = false) : c ∉ w :=
  fun h => by simp [hw c h] at hc

variable {a : Attribute}

/-- No attribute holds the end of a tag, and none its start. -/
theorem Attribute.no_mark (a : Attribute) : ofChar '<' ∉ a.text ∧ ofChar '>' ∉ a.text := by
  have hmark (m : CodePoint) (hblank : m.isBlank = false) (hpoint : isNamePoint m = false)
      (hequals : m ≠ ofChar '=') (hquote : m ≠ a.quote) (hvalue : m ∉ a.value) : m ∉ a.text := by
    have hgap := not_mem_of_blank a.gap_blank hblank
    have hname := a.name.no_mark hpoint
    simp [Attribute.text, hgap, hname, hequals, hquote, hvalue]
  refine ⟨hmark _ (by decide) (by decide) (by decide) ?_ ?_,
    hmark _ (by decide) (by decide) (by decide) a.quote_ne_end.symm ?_⟩
  · rcases a.quote_eq with h | h
    · rw [h]
      decide
    · rw [h]
      decide
  · exact fun h => (a.value_ne _ h).2.2.1 rfl
  · exact fun h => (a.value_ne _ h).2.2.2 rfl

/-- What stands behind the start of the word is too short for it. -/
theorem reads_inner (h : reads word (c :: w) = true) (hv : v <:+ w) : reads word v = false := by
  have hlength := congrArg List.length (of_decide_eq_true h)
  have hle := hv.length_le
  rw [reads, decide_eq_false_iff_not]
  intro hreads
  have hequal := congrArg List.length hreads
  simp only [List.length_map, List.length_cons] at hequal hlength
  omega

theorem reads_of_is {n : Name} (hword : IsLowerName word) (h : n.is word = true) :
    reads word n.text = true := by
  rw [Name.is, decide_eq_true_eq, toLower] at h
  rw [reads, decide_eq_true_eq, ← h, List.map_inj_left]
  intro c hc
  have hmem : c.toAsciiLower ∈ word := h ▸ List.mem_map_of_mem hc
  exact fold_eq_of_toAsciiLower_eq (ascii_of_isAsciiLower (hword _ hmem)).1 rfl

variable (hword : IsLowerName word) (hne : word ≠ [])
include hword hne

/-- Behind its name the search passes an attribute. -/
theorem attribute?_value (ha : a.Reads word) (t : Text) :
    attribute? word tail b (ofChar '=' :: a.quote :: (a.value ++ a.quote :: t)) =
      attribute? word tail false t := by
  calc attribute? word tail b ([ofChar '=', a.quote] ++ (a.value ++ a.quote :: t))
    _ = attribute? word tail false (a.value ++ a.quote :: t) :=
      attribute?_marks hword hne (by simp) (by simpa using ⟨by decide, a.quote_ne_end.symm⟩)
        (by simpa using ⟨by decide, a.quote_isWord⟩)
    _ = attribute? word tail (endsInWord false a.value) ([a.quote] ++ t) := by
      refine attribute?_append (fun h => (a.value_ne _ h).2.2.2 rfl) ha.value ?_
      intro v hv _ hassigns
      refine attributeHere?_value hword (fun c hc => ?_) a.quote_eq hassigns t
      have hne := a.value_ne c (hv.subset hc)
      exact ⟨hne.1, hne.2.1⟩
    _ = attribute? word tail false t :=
      attribute?_marks hword hne (by simp) (by simpa using a.quote_ne_end.symm)
        (by simpa using a.quote_isWord)

/-- The gap in front of an attribute ends at a word boundary. -/
theorem attribute?_gap (t : Text) :
    attribute? word tail b (a.gap ++ t) = attribute? word tail false t :=
  attribute?_marks hword hne a.gap_ne_nil (not_mem_of_blank a.gap_blank (by decide))
    fun c hc => isWord_of_isBlank (a.gap_blank c hc)

/-- The search passes an attribute of another name. -/
theorem attribute?_unnamed (ha : a.Reads word) (hn : a.name.is word = false) (t : Text) :
    attribute? word tail b (a.text ++ t) = attribute? word tail false t := by
  have hends : endsWhere (reads word) false a.name.text = false := by
    cases h : endsWhere (reads word) false a.name.text with
    | false => rfl
    | true => simp [ha.name h] at hn
  rw [a.text_append, attribute?_gap hword hne,
    attribute?_append (a.name.no_mark (by decide)) hends fun v hv _ hr =>
      attributeHere?_name hword (fun c hc => a.name.points c (hv.subset hc)) hr _,
    attribute?_value hword hne ha]

/-- At an attribute of its name the search reads the value, and goes on behind it when the rest does
not succeed. -/
theorem attribute?_named (ha : a.Reads word) (hn : a.name.is word = true) (t : Text) :
    attribute? word tail b (a.text ++ t) =
      (quotedValue? a.quote tail [] (a.value ++ a.quote :: t)).orElse
        fun _ => attribute? word tail false t := by
  have hreads := reads_of_is hword hn
  obtain ⟨c, n, hname⟩ := List.exists_cons_of_ne_nil a.name.ne_nil
  have hhere : attributeHere? word tail
      (a.name.text ++ ofChar '=' :: a.quote :: (a.value ++ a.quote :: t)) =
      quotedValue? a.quote tail [] (a.value ++ a.quote :: t) := by
    have hequals (s : Text) : after? "=" (skipBlanks (ofChar '=' :: s)) = some s := rfl
    rw [attributeHere?, afterFolded?_append hreads, Option.bind_eq_bind, Option.bind_some, hequals,
      Option.bind_some]
    rcases a.quote_eq with h | h
    · rw [h]
      rfl
    · rw [h]
      rfl
  rw [a.text_append, attribute?_gap hword hne]
  rw [hname] at hhere ⊢
  rw [List.cons_append] at hhere ⊢
  rw [attribute?]
  simp only [Bool.false_eq_true, if_false, hhere]
  cases hq : quotedValue? a.quote tail [] (a.value ++ a.quote :: t) with
  | some found => rfl
  | none =>
    have hc : c ≠ ofChar '>' := by
      rintro rfl
      exact a.name.no_mark (by decide) (hname ▸ List.mem_cons_self)
    have hrest : ofChar '>' ∉ n := fun h =>
      a.name.no_mark (by decide) (hname ▸ List.mem_cons_of_mem _ h)
    simp only [if_neg hc]
    rw [attribute?_append (p := fun _ => false) hrest (endsWhere_eq_false fun _ _ => rfl),
      attribute?_value hword hne ha]
    · rfl
    · intro v hv _ _
      rw [hname] at hreads
      refine attributeHere?_name hword (fun d hd => a.name.points d ?_) (reads_inner hreads hv) _
      exact hname ▸ List.mem_cons_of_mem _ (hv.subset hd)

end Attributes

end Markup

end SitePreview
