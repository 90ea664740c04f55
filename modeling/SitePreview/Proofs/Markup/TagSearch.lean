import SitePreview.Proofs.Markup.TagReading
import SitePreview.Proofs.Text.Parts

/-! What the searches for references recognise. A start tag is recognised by its name up to a word
boundary, an end tag by its name, and an address is local or not; where a tag reads as it is
written, what is recognised in it is the first attribute with its name. -/

namespace SitePreview.Markup

open Text CodePoint

variable {word element s w : Text} {c : CodePoint} {b : Bool} {t : StartTag} {a : Attribute}
  {behind : Text → Option Text}

section Reading

/-- A start tag is read as it is written: its name does not only start with that of the element, and
it has at most one attribute that reads as the word. -/
structure StartTag.Reads (element word : Text) (t : StartTag) : Prop where
  name : (afterWord? element t.name.text).isSome = true → t.name.is element = true
  attributes : t.name.is element = true → ∀ a ∈ t.attributes, a.Reads word
  single : t.name.is element = true →
    (t.attributes.filter fun a => a.name.is word).length ≤ 1

instance (element word : Text) (t : StartTag) : Decidable (t.Reads element word) :=
  decidable_of_iff (((afterWord? element t.name.text).isSome = true → t.name.is element = true) ∧
      (t.name.is element = true → ∀ a ∈ t.attributes, a.Reads word) ∧
      (t.name.is element = true → (t.attributes.filter fun a => a.name.is word).length ≤ 1))
    ⟨fun ⟨hname, hattributes, hsingle⟩ => ⟨hname, hattributes, hsingle⟩,
      fun h => ⟨h.name, h.attributes, h.single⟩⟩

namespace Tag

/-- A start tag is read as it is written. -/
def Reads (element word : Text) : Tag → Prop
  | opening t => t.Reads element word
  | closing _ => True

instance (element word : Text) (tag : Tag) : Decidable (tag.Reads element word) :=
  match tag with
  | opening t => inferInstanceAs (Decidable (t.Reads element word))
  | closing _ => isTrue trivial

/-- An end tag is taken for that of the element only when it is one. -/
def EndReads (element : Text) : Tag → Prop
  | opening _ => True
  | closing t => reads element t.name.text = true → t.name.is element = true

instance (element : Text) (tag : Tag) : Decidable (tag.EndReads element) :=
  match tag with
  | opening _ => isTrue trivial
  | closing t =>
    inferInstanceAs (Decidable (reads element t.name.text = true → t.name.is element = true))

/-- The first attribute of the name in a start tag of the element. -/
def attribute? (element word : Text) : Tag → Option Attribute
  | opening t => if t.name.is element then t.attributes.find? fun a => a.name.is word else none
  | closing _ => none

end Tag

end Reading

section Addresses

theorem isAsciiLower_fold (hc : c.fold = c.toAsciiLower) :
    c.fold.isAsciiLower = c.isAsciiLetter := by
  rw [hc]
  cases h : c.toAsciiLower.isAsciiLower with
  | true => exact (isAsciiLetter_of_toAsciiLower h).symm
  | false =>
    rw [toAsciiLower] at h
    split at h
    · next hupper =>
      simp only [isAsciiUpper, isAsciiLower, Bool.and_eq_true, Bool.and_eq_false_iff,
        decide_eq_true_eq, decide_eq_false_iff_not] at hupper h
      omega
    · next hupper => simpa [isAsciiLetter, hupper] using h

theorem mem_of_mem_strip (h : c ∈ s.strip) : c ∈ s := by
  rw [strip, dropRightWhile, List.mem_reverse] at h
  have hskip := (List.dropWhile_suffix _).subset h
  rw [List.mem_reverse] at hskip
  exact (skipBlanks_suffix s).subset hskip

theorem dropWhile_congr {f g : CodePoint → Bool} (h : ∀ c ∈ s, f c = g c) :
    s.dropWhile f = s.dropWhile g := by
  induction s with
  | nil => rfl
  | cons c s ih =>
    rw [List.forall_mem_cons] at h
    rw [List.dropWhile_cons, List.dropWhile_cons, h.1, ih h.2]

/-- Among plain letters the address is taken for what it is. -/
theorem isLocalAddress_eq (h : ∀ c ∈ s, c.fold = c.toAsciiLower) :
    isLocalAddress s = decide (IsLocal s) := by
  have hplain : ∀ c ∈ s.strip, c.fold = c.toAsciiLower := fun c hc => h c (mem_of_mem_strip hc)
  have habsolute (u : Text) (hu : ∀ c ∈ u, c.fold = c.toAsciiLower) :
      isAbsoluteAddress u = (decide (HasScheme u) || decide (ofString "//" <+: u)) := by
    cases u with
    | nil => decide
    | cons c u =>
      rw [List.forall_mem_cons] at hu
      let isPart (c : CodePoint) : Bool :=
        c.fold.isAsciiLower || c.isAsciiDigit || c = '+' || c = '.' || c = '-'
      have hparts : u.dropWhile isPart = u.dropWhile isSchemePoint :=
        dropWhile_congr fun c hc => by
          dsimp only [isPart]
          rw [isAsciiLower_fold (hu.2 c hc), isSchemePoint]
      have hread : isAbsoluteAddress (c :: u) = (c.fold.isAsciiLower &&
          (u.dropWhile isPart).head? = some (ofChar ':') ||
            (ofString "//").isPrefixOf (c :: u)) := rfl
      rw [hread, hparts, isAsciiLower_fold hu.1, Bool.eq_iff_iff]
      simp [hasScheme_cons_iff]
  rw [isLocalAddress, habsolute _ hplain, Bool.eq_iff_iff, decide_eq_true_iff]
  simp [IsLocal]

end Addresses

section Tags

theorem tagEnd?_append (hw : ofChar '>' ∉ w) (s : Text) :
    tagEnd? (w ++ ofChar '>' :: s) = some s := by
  have hdrop : (w ++ ofChar '>' :: s).dropWhile (fun c : CodePoint => c ≠ ofChar '>') =
      ofChar '>' :: s :=
    dropWhile_append_stop (fun c hc => by simpa using fun h : c = ofChar '>' => hw (h ▸ hc)) rfl
  rw [tagEnd?, hdrop]
  rfl

/-- What `behind` reads behind the next end of a tag. -/
def behindTag (behind : Text → Option Text) (s : Text) : Option Text := (tagEnd? s).bind behind

/-- A reference of the element in the attribute, with what `behind` reads behind its tag. -/
def reference? (element word : Text) (behind : Text → Option Text) (s : Text) :
    Option (Text × Text) :=
  (startTagName? element s).bind (attribute? word (behindTag behind) true)

def behindScript (s : Text) : Option Text := (endTag? "script" (skipBlanks s)).map skipLineEnd

def behindLink (s : Text) : Option Text := some (skipLineEnd s)

theorem scriptReference?_eq : scriptReference? = reference? "script" "src" behindScript := by
  funext s
  have htail (u : Text) : (tagEnd? u).bind behindScript =
      ((tagEnd? u).bind fun u => (endTag? "script" (skipBlanks u)).bind fun u =>
        some (skipLineEnd u)) := by
    refine congrArg _ (funext fun u => ?_)
    rw [behindScript]
    cases endTag? "script" (skipBlanks u) <;> rfl
  rw [reference?, funext (f := behindTag behindScript) htail]
  rfl

theorem linkReference?_eq : linkReference? = reference? "link" "href" behindLink := rfl

/-- Between the attributes and the end of a tag there are blanks and slashes only. -/
theorem closing_no_mark {closing : Text}
    (hclosing : ∀ c ∈ closing, c.isBlank = true ∨ c = ofChar '/') (hblank : c.isBlank = false)
    (hslash : c ≠ ofChar '/') : c ∉ closing := by
  intro h
  rcases hclosing _ h with h | h
  · simp [hblank] at h
  · exact hslash h

theorem attributes_no_end (as : List Attribute) {closing : Text}
    (hclosing : ∀ c ∈ closing, c.isBlank = true ∨ c = ofChar '/') :
    ofChar '>' ∉ as.flatMap Attribute.text ++ closing := by
  rw [List.mem_append, List.mem_flatMap]
  rintro (⟨a, -, ha⟩ | h)
  · exact a.no_mark.2 ha
  · exact closing_no_mark hclosing (by decide) (by decide) h

/-- Where nothing is read behind a tag, a mark that could close the value reads nothing either: one
inside the tag runs into the same end. -/
theorem behindTag_of_inside (hw : ofChar '>' ∉ w) (hs : behind s = none)
    (hlater : ∀ v, a.quote :: v <:+ s → behindTag behind v = none)
    (hv : a.quote :: v <:+ a.value ++ a.quote :: (w ++ ofChar '>' :: s)) :
    behindTag behind v = none := by
  rw [← List.cons_append, ← List.append_assoc] at hv
  rcases suffix_append_cases hv with hv | ⟨u, hu, rfl⟩
  · rcases List.suffix_cons_iff.mp hv with h | hv
    · exact absurd (List.cons.inj h).1 a.quote_ne_end
    · exact hlater v hv
  · have hmark : ofChar '>' ∉ u := fun h => by
      have hmem := hu.subset (List.mem_cons_of_mem _ h)
      rw [List.mem_append, List.mem_cons] at hmem
      rcases hmem with h | h | h
      · exact (a.value_ne _ h).2.2.2 rfl
      · exact a.quote_ne_end h.symm
      · exact hw h
    rw [behindTag, tagEnd?_append hmark, Option.bind_some, hs]

variable (hword : IsLowerName word) (hne : word ≠ [])
include hword hne

theorem attribute?_closing {closing : Text} {tail : Text → Option Text}
    (hclosing : ∀ c ∈ closing, c.isBlank = true ∨ c = ofChar '/') (s : Text) :
    attribute? word tail b (closing ++ ofChar '>' :: s) = none := by
  have hend (b : Bool) : attribute? word tail b (ofChar '>' :: s) = none := by
    rw [attribute?, attributeHere?_of_not_isWord hword hne (by decide)]
    cases b <;> simp
  by_cases hnil : closing = []
  · rw [hnil]
    exact hend b
  · rw [attribute?_marks hword hne hnil (closing_no_mark hclosing (by decide) (by decide))]
    · exact hend false
    · intro c hc
      rcases hclosing c hc with h | rfl
      · exact isWord_of_isBlank h
      · decide

/-- The search of a tag reads the first attribute with its name, if what stands behind the tag is
read, and nothing otherwise. -/
theorem attribute?_attributes {as : List Attribute} {closing : Text}
    (hreads : ∀ a ∈ as, a.Reads word)
    (hclosing : ∀ c ∈ closing, c.isBlank = true ∨ c = ofChar '/')
    (hlater : behind s = none → ∀ a ∈ as, a.name.is word = true →
      ∀ v, a.quote :: v <:+ s → behindTag behind v = none) :
    attribute? word (behindTag behind) b
        (as.flatMap Attribute.text ++ (closing ++ ofChar '>' :: s)) =
      (as.find? fun a => a.name.is word).bind fun a => (behind s).map fun r => (a.value, r) := by
  induction as generalizing b with
  | nil => exact attribute?_closing hword hne hclosing s
  | cons a as ih =>
    rw [List.forall_mem_cons] at hreads
    have hrest := ih (b := false) hreads.2 fun h a ha => hlater h a (List.mem_cons_of_mem _ ha)
    rw [List.flatMap_cons, List.append_assoc]
    cases hn : a.name.is word with
    | false =>
      rw [attribute?_unnamed hword hne hreads.1 hn, hrest, List.find?_cons_of_neg (by simp [hn])]
    | true =>
      have hinner := attributes_no_end as hclosing
      rw [attribute?_named hword hne hreads.1 hn, List.find?_cons_of_pos (by simpa using hn),
        Option.bind_some, ← List.append_assoc]
      cases hs : behind s with
      | some r =>
        have htail : behindTag behind ((as.flatMap Attribute.text ++ closing) ++
            ofChar '>' :: s) = some r := by
          rw [behindTag, tagEnd?_append hinner, Option.bind_some, hs]
        rw [quotedValue?_of_some a.quote_not_mem htail]
        rfl
      | none =>
        have hopen := hlater hs a List.mem_cons_self hn
        rw [quotedValue?_eq_none fun v hv => behindTag_of_inside hinner hs hopen hv,
          List.append_assoc, Option.orElse_none, hrest, hs]
        simp

end Tags

section Starts

/-- What stands behind a name. -/
theorem exists_boundary (t : StartTag) (s : Text) :
    ∃ c u, t.attributes.flatMap Attribute.text ++ (t.closing ++ ofChar '>' :: s) = c :: u ∧
      c.isWord = false := by
  cases t.attributes with
  | cons a as =>
    obtain ⟨c, u, hgap⟩ := List.exists_cons_of_ne_nil a.gap_ne_nil
    refine ⟨c, _, by rw [List.flatMap_cons, Attribute.text, hgap]; rfl, ?_⟩
    exact isWord_of_isBlank (a.gap_blank c (hgap ▸ List.mem_cons_self))
  | nil =>
    cases hclosing : t.closing with
    | nil => exact ⟨_, _, rfl, by decide⟩
    | cons c u =>
      refine ⟨c, _, rfl, ?_⟩
      rcases t.closing_points c (hclosing ▸ List.mem_cons_self) with h | rfl
      · exact isWord_of_isBlank h
      · decide

theorem startTagName?_of_ne_mark (hc : c ≠ ofChar '<') (s : Text) :
    startTagName? element (c :: s) = none := by
  have hfold : ofChar '<' ≠ c.fold := fun h => hc (eq_of_fold_eq (by decide) h.symm)
  rw [startTagName?, afterWord?, afterFolded?, if_neg hfold]
  rfl

theorem startTagName?_mark (s : Text) :
    startTagName? element (ofChar '<' :: s) = afterWord? element s := by
  have hfold : ofChar '<' = (ofChar '<').fold := by decide
  rw [startTagName?, afterWord?, afterFolded?, if_pos hfold, afterWord?]

theorem startTagName?_closing (helement : IsLowerName element) (hnil : element ≠ []) (t : EndTag)
    (s : Text) : startTagName? element ((Tag.closing t).text ++ s) = none := by
  have htext : (Tag.closing t).text ++ s =
      ofChar '<' :: ofChar '/' :: (t.name.text ++ (t.blanks ++ ofChar '>' :: s)) := by
    simp [Tag.text, Tag.inner, EndTag.inner]
  obtain ⟨c, e, rfl⟩ := List.exists_cons_of_ne_nil hnil
  have hfold : c ≠ (ofChar '/').fold := by
    rintro rfl
    exact absurd (helement _ List.mem_cons_self) (by decide)
  rw [htext, startTagName?_mark, afterWord?, afterFolded?, if_neg hfold]
  rfl

variable (helement : IsLowerName element)
include helement

/-- A word is read in front of a boundary as it is at the end of a text. -/
theorem afterWord?_append (hc : c.isWord = false) (s : Text) :
    afterWord? element (w ++ c :: s) = (afterWord? element w).map (· ++ c :: s) := by
  have hfold := isAsciiLower_fold_of_not_isWord hc
  have hends (u : Text) : wordEnds (u ++ c :: s) = wordEnds u := by
    cases u with
    | nil => simp [wordEnds, hc]
    | cons d u => rfl
  cases h : afterFolded? element (w ++ c :: s) with
  | none =>
    cases hw : afterFolded? element w with
    | none => simp [afterWord?, h, hw]
    | some u =>
      obtain ⟨v, rfl, hv⟩ := exists_of_afterFolded? hw
      rw [List.append_assoc, afterFolded?_append hv] at h
      simp at h
  | some r =>
    obtain ⟨u, hu, rfl⟩ := exists_of_afterFolded?_append helement hfold h
    simp only [afterWord?, h, hu, Option.bind_eq_bind, Option.bind_some, hends]
    split <;> rfl

/-- The start of a start tag is recognised exactly when its name is that of the element. -/
theorem startTagName?_opening (hname : (afterWord? element t.name.text).isSome = true →
      t.name.is element = true) (s : Text) :
    startTagName? element ((Tag.opening t).text ++ s) = if t.name.is element = true then
      some (t.attributes.flatMap Attribute.text ++ (t.closing ++ ofChar '>' :: s)) else none := by
  obtain ⟨c, u, hu, hc⟩ := exists_boundary t s
  have htext : (Tag.opening t).text ++ s = ofChar '<' :: (t.name.text ++ c :: u) := by
    rw [← hu]
    simp [Tag.text, Tag.inner, StartTag.inner]
  rw [htext, startTagName?_mark, afterWord?_append helement hc, hu]
  split
  · next his =>
    have hread := afterFolded?_append (reads_of_is helement his) []
    rw [List.append_nil] at hread
    simp [afterWord?, hread, wordEnds]
  · next his =>
    cases h : afterWord? element t.name.text with
    | none => rfl
    | some r => exact absurd (hname (by simp [h])) his

end Starts

section Ends

theorem endTag?_of_ne_mark (hc : c ≠ ofChar '<') (s : Text) :
    endTag? element (c :: s) = none := by
  have hfold : ofChar '<' ≠ c.fold := fun h => hc (eq_of_fold_eq (by decide) h.symm)
  have hnone : afterFolded? ("</" ++ element) (c :: s) = none := if_neg hfold
  rw [endTag?, hnone]
  rfl

theorem endTag?_mark (s : Text) :
    endTag? element (ofChar '<' :: s) =
      (afterFolded? (ofChar '/' :: element) s).bind fun r => after? ">" (skipBlanks r) := by
  have hfold : ofChar '<' = (ofChar '<').fold := by decide
  have hstart : afterFolded? ("</" ++ element) (ofChar '<' :: s) =
      afterFolded? (ofChar '/' :: element) s := if_pos hfold
  rw [endTag?, hstart]
  rfl

/-- No end tag stands where a start tag does. -/
theorem endTag?_opening (t : StartTag) (s : Text) :
    endTag? element ((Tag.opening t).text ++ s) = none := by
  obtain ⟨c, n, hname⟩ := List.exists_cons_of_ne_nil t.name.ne_nil
  have hc : ofChar '/' ≠ c.fold := by
    intro h
    have hslash : c = ofChar '/' := eq_of_fold_eq (by decide) h.symm
    exact t.name.no_mark (by decide) (hslash ▸ hname ▸ List.mem_cons_self)
  have htext : ∃ u, (Tag.opening t).text ++ s = ofChar '<' :: c :: u :=
    ⟨_, by rw [Tag.text, Tag.inner, StartTag.inner, hname]; rfl⟩
  obtain ⟨u, hu⟩ := htext
  rw [hu, endTag?_mark, afterFolded?, if_neg hc]
  rfl

/-- An end tag is recognised exactly when its name reads as that of the element. -/
theorem endTag?_closing (helement : IsLowerName element) (t : EndTag) (s : Text) :
    endTag? element ((Tag.closing t).text ++ s) =
      if reads element t.name.text = true then some s else none := by
  have hslash : ofChar '/' = (ofChar '/').fold := by decide
  have htext : (Tag.closing t).text ++ s =
      ofChar '<' :: ofChar '/' :: (t.name.text ++ (t.blanks ++ ofChar '>' :: s)) := by
    simp [Tag.text, Tag.inner, EndTag.inner]
  rw [htext, endTag?_mark, afterFolded?, if_pos hslash]
  have hskip : skipBlanks (t.blanks ++ ofChar '>' :: s) = ofChar '>' :: s :=
    dropWhile_append_stop t.all_blank rfl
  have hboundary : ∃ c u, t.blanks ++ ofChar '>' :: s = c :: u ∧ c.fold.isAsciiLower = false := by
    cases hblanks : t.blanks with
    | nil => exact ⟨_, _, rfl, by decide⟩
    | cons c u =>
      refine ⟨c, _, rfl, isAsciiLower_fold_of_not_isWord (isWord_of_isBlank ?_)⟩
      exact t.all_blank c (hblanks ▸ List.mem_cons_self)
  obtain ⟨c, u, hu, hc⟩ := hboundary
  by_cases hread : reads element t.name.text = true
  · rw [afterFolded?_append hread, Option.bind_some, hskip, if_pos hread]
    rfl
  · rw [if_neg hread, Option.bind_eq_none_iff]
    intro r hr
    rw [hu] at hr
    obtain ⟨v, hv, rfl⟩ := exists_of_afterFolded?_append helement hc hr
    obtain ⟨n, hn, hnread⟩ := exists_of_afterFolded? hv
    cases v with
    | nil => exact absurd (hn ▸ (List.append_nil n).symm ▸ hnread) hread
    | cons d v =>
      have hmem : d ∈ t.name.text := by simp [hn]
      have hblank : d.isBlank = false := by
        have hpoint := t.name.points d hmem
        simp only [isNamePoint, Bool.not_eq_true', Bool.or_eq_false_iff] at hpoint
        exact hpoint.1.1.1.1.1.1
      have hend : ofChar '>' ≠ d := fun h => t.name.no_mark (by decide) (h ▸ hmem)
      rw [skipBlanks_of_notAhead (by simp [hblank])]
      exact if_neg hend

end Ends

section Reads

theorem any_eq_any_find? {f g : Attribute → Bool} {as : List Attribute}
    (h : (as.filter f).length ≤ 1) :
    (as.any fun a => f a && g a) = (as.find? f).any g := by
  have hfilter : (as.any fun a => f a && g a) = (as.filter f).any g := by
    rw [List.any_filter]
  rw [hfilter, ← List.head?_filter]
  match as.filter f, h with
  | [], _ => rfl
  | [a], _ => simp
  | a :: b :: as, h => simp at h

/-- The tag is a reference to a local file when the address that is read in it is local. -/
theorem Tag.isReference_eq {tag : Tag} (hreads : tag.Reads element word) :
    tag.isReference element word =
      (tag.attribute? element word).any fun a => isLocalAddress a.value := by
  cases tag with
  | closing t => rfl
  | opening t =>
    obtain ⟨-, hattributes, hsingle⟩ := hreads
    rw [isReference, attribute?]
    cases his : t.name.is element with
    | false => rfl
    | true =>
      rw [any_eq_any_find? (hsingle his), Bool.true_and, if_pos rfl]
      cases hfind : t.attributes.find? fun a => a.name.is word with
      | none => rfl
      | some a =>
        have hmem := List.mem_of_find?_eq_some hfind
        have hname : a.name.is word = true :=
          List.find?_some (p := fun a : Attribute => a.name.is word) hfind
        rw [Option.any_some, Option.any_some,
          isLocalAddress_eq ((hattributes his a hmem).address hname)]

theorem find?_eq_some_of_single {f : Attribute → Bool} {as : List Attribute}
    (h : (as.filter f).length ≤ 1) (ha : a ∈ as) (hf : f a = true) : as.find? f = some a := by
  have hmem : a ∈ as.filter f := List.mem_filter.mpr ⟨ha, hf⟩
  rw [← List.head?_filter]
  match as.filter f, h, hmem with
  | [b], _, hmem => rw [List.mem_singleton.mp hmem, List.head?_cons]
  | b :: d :: as, h, _ => simp at h

variable (helement : IsLowerName element) (hnil : element ≠ []) (hword : IsLowerName word)
  (hne : word ≠ [])
include helement hnil hword hne

/-- What is read at a tag: the address in it, if what stands behind the tag is read. -/
theorem reference?_tag {tag : Tag} (hreads : tag.Reads element word)
    (hlater : behind s = none → ∀ a, tag.attribute? element word = some a →
      ∀ v, a.quote :: v <:+ s → behindTag behind v = none) :
    reference? element word behind (tag.text ++ s) =
      (tag.attribute? element word).bind fun a => (behind s).map fun r => (a.value, r) := by
  cases tag with
  | closing t =>
    rw [reference?, startTagName?_closing helement hnil]
    rfl
  | opening t =>
    obtain ⟨hname, hattributes, hsingle⟩ := hreads
    rw [reference?, startTagName?_opening helement hname, Tag.attribute?]
    cases his : t.name.is element with
    | false => rfl
    | true =>
      refine attribute?_attributes hword hne (hattributes his) t.closing_points ?_
      intro h a ha hn
      refine hlater h a ?_
      rw [Tag.attribute?, if_pos his]
      exact find?_eq_some_of_single (hsingle his) ha hn

end Reads

end SitePreview.Markup
