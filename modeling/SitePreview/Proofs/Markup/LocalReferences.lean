import SitePreview.Proofs.Markup.TagSearch

/-! Dropping the references to local files. The two searches go from tag to tag; where the tags read
as they are written, what they leave is the document without the scripts and then without the links
that refer to local files. -/

namespace SitePreview.Markup

open Text CodePoint

variable {word element r s v w : Text} {c : CodePoint} {behind : Text → Option Text} {p q : Piece}
  {ps : List Piece}

section Conditions

/-- The next end of a tag has white space and the end tag of a script behind it. -/
def ClosesScript (s : Text) : Prop :=
  ∃ w b t, s = w ++ ofChar '>' :: (b ++ t) ∧ ofChar '>' ∉ w ∧ (∀ c ∈ b, c.isBlank = true) ∧
    (endTag? "script" t).isSome = true

/-- Nothing but white space stands between the piece and the end tag of a script. -/
def isEnded (p : Piece) (ps : List Piece) : Bool :=
  p.content.text.isBlank && ps.head?.any fun q => q.tag.ends "script"

/-- The script tags among the pieces are read as they are written, and one with a source that its
end tag does not follow is not closed behind any later mark like those of its source. -/
structure ScriptsRead (ps : List Piece) : Prop where
  tags : ∀ p ∈ ps, p.tag.Reads "script" "src"
  ends : ∀ p ∈ ps, p.tag.EndReads "script"
  closed : ∀ p qs, p :: qs <:+ ps → isEnded p qs = false →
    ∀ a ∈ p.tag.attribute? "script" "src",
      ∀ v, a.quote :: v <:+ p.content.text ++ piecesText qs → ¬ClosesScript v

/-- The link tags among the pieces are read as they are written. -/
def LinksRead (ps : List Piece) : Prop := ∀ p ∈ ps, p.tag.Reads "link" "href"

instance (ps : List Piece) : Decidable (LinksRead ps) := inferInstanceAs (Decidable (∀ _ ∈ _, _))

theorem ScriptsRead.tail (h : ScriptsRead (p :: ps)) : ScriptsRead ps where
  tags q hq := h.tags q (List.mem_cons_of_mem p hq)
  ends q hq := h.ends q (List.mem_cons_of_mem p hq)
  closed q qs hq := h.closed q qs (hq.trans (List.suffix_cons p ps))

theorem LinksRead.tail (h : LinksRead (p :: ps)) : LinksRead ps :=
  fun q hq => h q (List.mem_cons_of_mem p hq)

end Conditions

section Drops

variable {reference : Text → Option (Text × Text)}

/-- A reference starts with the mark of a tag. -/
def StartsAtMark (reference : Text → Option (Text × Text)) : Prop :=
  ∀ c s, c ≠ ofChar '<' → reference (c :: s) = none

theorem reference?_startsAtMark (element word : Text) (behind : Text → Option Text) :
    StartsAtMark (reference? element word behind) := fun c s hc => by
  rw [reference?, startTagName?_of_ne_mark hc]
  rfl

theorem dropLocal_cons (h : reference (c :: s) = none) :
    dropLocal reference (c :: s) = c :: dropLocal reference s := by
  rw [dropLocal, h]

theorem dropLocal_of_some {address : Text} (h : reference (w ++ r) = some (address, r))
    (hw : w ≠ []) :
    dropLocal reference (w ++ r) =
      (if isLocalAddress address then [] else w) ++ dropLocal reference r := by
  obtain ⟨c, w, rfl⟩ := List.exists_cons_of_ne_nil hw
  have hlt : r.length < (w ++ r).length + 1 := by
    rw [List.length_append]
    omega
  have hcovered : covered (c :: (w ++ r)) r = c :: w :=
    List.append_cancel_right (covered_append (List.suffix_append (c :: w) r))
  rw [List.cons_append] at h ⊢
  rw [dropLocal, h]
  simp only [hlt, if_true, hcovered]

/-- Text without tags stays. -/
theorem dropLocal_content (hmark : StartsAtMark reference) (hw : markless w = true) (s : Text) :
    dropLocal reference (w ++ s) = w ++ dropLocal reference s := by
  induction w with
  | nil => rfl
  | cons c w ih =>
    rw [markless, List.all_cons, Bool.and_eq_true, decide_eq_true_eq] at hw
    rw [List.cons_append, dropLocal_cons (hmark c _ hw.1), ih hw.2, List.cons_append]

theorem markless_iff : markless s = true ↔ ofChar '<' ∉ s := by
  simp only [markless, List.all_eq_true, decide_eq_true_eq]
  exact ⟨fun h hm => h _ hm rfl, fun h c hc heq => h (heq ▸ hc)⟩

/-- Within a tag no other one starts. -/
theorem Tag.markless_inner (t : Tag) : markless t.inner = true := by
  rw [markless_iff]
  have hblank (w : Text) (hw : ∀ c ∈ w, c.isBlank = true) : ofChar '<' ∉ w :=
    not_mem_of_blank hw (by decide)
  cases t with
  | opening t =>
    have hname : ofChar '<' ∉ t.name.text := t.name.no_mark (by decide)
    have hattributes : ∀ a ∈ t.attributes, ofChar '<' ∉ a.text := fun a _ => a.no_mark.1
    have hclosing : ofChar '<' ∉ t.closing :=
      closing_no_mark t.closing_points (by decide) (by decide)
    have hend : ofChar '<' ≠ ofChar '>' := by decide
    simpa [inner, StartTag.inner, hname, hclosing, hend] using hattributes
  | closing t =>
    have hname : ofChar '<' ∉ t.name.text := t.name.no_mark (by decide)
    have hblanks := hblank t.blanks t.all_blank
    have hslash : ofChar '<' ≠ ofChar '/' := by decide
    have hend : ofChar '<' ≠ ofChar '>' := by decide
    simp [inner, EndTag.inner, hname, hblanks, hslash, hend]

/-- A piece at whose tag no reference stands stays. -/
theorem dropLocal_piece (hmark : StartsAtMark reference)
    (h : reference (p.tag.text ++ (p.content.text ++ s)) = none) :
    dropLocal reference (p.tag.text ++ (p.content.text ++ s)) =
      p.tag.text ++ (p.content.text ++ dropLocal reference s) := by
  rw [Tag.text, List.cons_append] at h ⊢
  rw [dropLocal_cons h, dropLocal_content hmark p.tag.markless_inner,
    dropLocal_content hmark p.content.markless, List.cons_append]

end Drops

section Pieces

theorem piecesText_cons (p : Piece) (ps : List Piece) :
    piecesText (p :: ps) = p.tag.text ++ (p.content.text ++ piecesText ps) := by
  simp [piecesText]

/-- What stands between two tags ends where the second one starts. -/
theorem notAhead_piecesText {f : CodePoint → Bool} (hf : f (ofChar '<') = false)
    (ps : List Piece) : notAhead f (piecesText ps) = true := by
  cases ps with
  | nil => rfl
  | cons p ps => simp [piecesText_cons, Tag.text, hf]

/-- The end of a line does not reach into the next tag. -/
theorem skipLineEnd_append (a : Content) (ps : List Piece) :
    skipLineEnd (a.text ++ piecesText ps) = a.skipLineEnd.text ++ piecesText ps := by
  have hinline : ∀ s : Text, skipInline (s ++ piecesText ps) = skipInline s ++ piecesText ps := by
    intro s
    induction s with
    | nil => exact skipInline_of_notAhead (notAhead_piecesText (by decide) ps)
    | cons c s ih =>
      by_cases hc : c.isInlineBlank = true
      · have hskip (s : Text) : skipInline (c :: s) = skipInline s :=
          List.dropWhile_cons_of_pos hc
        rw [List.cons_append, hskip, hskip, ih]
      · have hstop (s : Text) : skipInline (c :: s) = c :: s := List.dropWhile_cons_of_neg hc
        rw [List.cons_append, hstop, hstop, List.cons_append]
  show Markup.skipLineEnd (a.text ++ piecesText ps) = Markup.skipLineEnd a.text ++ piecesText ps
  rw [Markup.skipLineEnd, Markup.skipLineEnd, hinline]
  cases hs : skipInline a.text with
  | nil =>
    cases ps with
    | nil => rfl
    | cons p ps =>
      have hfeed : ofChar '\n' ≠ ofChar '<' := by decide
      simp [piecesText_cons, Tag.text, dropPrefix, after?, ofString, hfeed]
  | cons c u =>
    by_cases hc : ofChar '\n' = c
    · simp [dropPrefix, after?, ofString, hc]
    · simp [dropPrefix, after?, ofString, hc]

end Pieces

section Steps

variable (helement : IsLowerName element) (hnil : element ≠ []) (hword : IsLowerName word)
  (hne : word ≠ [])
include helement hnil hword hne

/-- A piece stays when nothing is read behind it or when it is no reference to a local file. -/
theorem dropLocal_kept {x : Text} (hreads : p.tag.Reads element word)
    (hlater : behind s = none → ∀ a, p.tag.attribute? element word = some a →
      ∀ v, a.quote :: v <:+ s → behindTag behind v = none)
    (hs : s = p.content.text ++ x)
    (hbehind : ∀ r, behind s = some r → p.tag.isReference element word = false ∧
      ∃ w, s = w ++ r ∧ w ++ dropLocal (reference? element word behind) r =
        p.content.text ++ dropLocal (reference? element word behind) x) :
    dropLocal (reference? element word behind) (p.tag.text ++ s) =
      p.tag.text ++ (p.content.text ++ dropLocal (reference? element word behind) x) := by
  have hmark := reference?_startsAtMark element word behind
  have href := reference?_tag helement hnil hword hne hreads hlater
  cases hattribute : p.tag.attribute? element word with
  | none =>
    rw [hattribute, Option.bind_none, hs] at href
    rw [hs, dropLocal_piece hmark href]
  | some a =>
    rw [hattribute, Option.bind_some] at href
    cases hr : behind s with
    | none =>
      rw [hr, Option.map_none, hs] at href
      rw [hs, dropLocal_piece hmark href]
    | some r =>
      obtain ⟨hnot, w, hw, hrest⟩ := hbehind r hr
      rw [Tag.isReference_eq hreads] at hnot
      have hlocal : isLocalAddress a.value = false := by simpa [hattribute] using hnot
      rw [hr, Option.map_some, hw, ← List.append_assoc] at href
      rw [hw, ← List.append_assoc, dropLocal_of_some href (by simp [Tag.text]), hlocal,
        ← hrest]
      simp

/-- A reference to a local file goes away with what is read behind it. -/
theorem dropLocal_dropped (hreads : p.tag.Reads element word)
    (his : p.tag.isReference element word = true) (hbehind : behind (w ++ r) = some r) :
    dropLocal (reference? element word behind) (p.tag.text ++ (w ++ r)) =
      dropLocal (reference? element word behind) r := by
  have href := reference?_tag helement hnil hword hne (s := w ++ r) hreads
    fun h => absurd (h.symm.trans hbehind) (by simp)
  rw [Tag.isReference_eq hreads] at his
  cases ha : p.tag.attribute? element word with
  | none => simp [ha] at his
  | some a =>
    have hlocal : isLocalAddress a.value = true := by simpa [ha] using his
    rw [ha, Option.bind_some, hbehind, Option.map_some, ← List.append_assoc] at href
    rw [← List.append_assoc, dropLocal_of_some href (by simp [Tag.text]), hlocal]
    rfl

end Steps

section Links

/-- The end of the first line stands in front of what is left without it. -/
theorem exists_skipLineEnd (a : Content) :
    ∃ w, ∀ s, a.text ++ s = w ++ (a.skipLineEnd.text ++ s) := by
  obtain ⟨w, hw⟩ := Content.skipLineEnd_suffix a.text
  refine ⟨w, fun s => ?_⟩
  rw [← List.append_assoc]
  exact congrArg (· ++ s) hw.symm

/-- The search for links leaves what is left without the local ones. -/
theorem dropLocal_links (h : LinksRead ps) :
    dropLocal linkReference? (piecesText ps) =
      (dropLinks ps).1.text ++ piecesText (dropLinks ps).2 := by
  have hlower : IsLowerName (ofString "link") ∧ IsLowerName (ofString "href") := by
    unfold IsLowerName
    decide
  rw [linkReference?_eq]
  induction ps with
  | nil =>
    rw [piecesText, List.flatMap_nil, dropLocal]
    rfl
  | cons p ps ih =>
    have hreads := h p List.mem_cons_self
    have hmark := reference?_startsAtMark "link" "href" behindLink
    obtain ⟨w, hw⟩ := exists_skipLineEnd p.content
    have hline : skipLineEnd (p.content.text ++ piecesText ps) =
        p.content.skipLineEnd.text ++ piecesText ps := skipLineEnd_append p.content ps
    have hrest := dropLocal_content hmark p.content.skipLineEnd.markless (piecesText ps)
    rw [piecesText_cons, dropLinks]
    split
    · next his =>
      have hbehind : behindLink (w ++ (p.content.skipLineEnd.text ++ piecesText ps)) =
          some (p.content.skipLineEnd.text ++ piecesText ps) := by
        rw [← hw, behindLink, hline]
      rw [hw, dropLocal_dropped hlower.1 (by decide) hlower.2 (by decide) hreads his hbehind,
        hrest, ih h.tail]
      simp [Rest.behind, Content.append]
    · next hnot =>
      rw [dropLocal_kept hlower.1 (by decide) hlower.2 (by decide) hreads
        (fun h => by simp [behindLink] at h) rfl, ih h.tail]
      · simp [Rest.behindPiece, Content.append, Content.empty, piecesText_cons]
      · intro r hr
        rw [behindLink, hline, Option.some.injEq] at hr
        subst hr
        refine ⟨by simpa using hnot, w, hw _, ?_⟩
        rw [hrest, hw]

end Links

section Scripts

theorem isLowerName_src : IsLowerName "src" := by
  unfold IsLowerName
  decide

/-- Behind a start tag the end tag of a script is read across white space only. -/
theorem behindScript_of_isEnded (h : isEnded p (q :: ps) = true) :
    behindScript (p.content.text ++ piecesText (q :: ps)) =
      some (q.content.skipLineEnd.text ++ piecesText ps) := by
  obtain ⟨hblank, hq⟩ : p.content.text.isBlank = true ∧ q.tag.ends "script" = true := by
    simpa [isEnded] using h
  have hskip : skipBlanks (p.content.text ++ piecesText (q :: ps)) = piecesText (q :: ps) :=
    dropWhile_append_stop (List.all_eq_true.mp hblank) (notAhead_piecesText (by decide) _)
  cases hclosing : q.tag with
  | opening t => simp [hclosing, Tag.ends] at hq
  | closing t =>
    rw [hclosing] at hq
    rw [behindScript, hskip, piecesText_cons, hclosing, endTag?_closing isLowerName_script,
      if_pos (reads_of_is isLowerName_script hq), Option.map_some, skipLineEnd_append]

theorem behindScript_of_not_isEnded (h : isEnded p ps = false)
    (hends : ∀ q ∈ ps, q.tag.EndReads "script") :
    behindScript (p.content.text ++ piecesText ps) = none := by
  rw [behindScript, Option.map_eq_none_iff]
  rcases skipBlanks_append p.content.text (piecesText ps) with
    ⟨hblank, hskip⟩ | ⟨d, u, -, hu, -, hskip⟩
  · rw [hskip, skipBlanks_of_notAhead (notAhead_piecesText (by decide) ps)]
    cases ps with
    | nil => rfl
    | cons q ps =>
      rw [piecesText_cons]
      cases hq : q.tag with
      | opening t => exact endTag?_opening t _
      | closing t =>
        have his : t.name.is "script" = false := by
          simpa [isEnded, hblank, hq, Tag.ends] using h
        have hends := hends q List.mem_cons_self
        rw [hq] at hends
        have hread : ¬reads "script" t.name.text = true := fun hread => by
          simp [hends hread] at his
        rw [endTag?_closing isLowerName_script, if_neg hread]
  · have hd : d ≠ ofChar '<' := by
      have hmark := markless_iff.mp p.content.markless
      exact fun h => hmark (h ▸ hu.subset List.mem_cons_self)
    rw [hskip, List.cons_append, endTag?_of_ne_mark hd]

/-- What is read behind a mark closes a script. -/
theorem closesScript_of_behindTag (h : behindTag behindScript v = some r) : ClosesScript v := by
  obtain ⟨u, hu, hr⟩ := Option.bind_eq_some_iff.mp h
  obtain ⟨e, he, -⟩ := Option.map_eq_some_iff.mp hr
  refine ⟨v.takeWhile fun c : CodePoint => c ≠ ofChar '>', u.takeWhile CodePoint.isBlank,
    skipBlanks u, ?_, ?_, ?_, by simp [he]⟩
  · rw [skipBlanks, List.takeWhile_append_dropWhile]
    have hdrop : v.dropWhile (fun c : CodePoint => c ≠ ofChar '>') = ofChar '>' :: u :=
      eq_append_of_after? hu
    rw [← hdrop, List.takeWhile_append_dropWhile]
  · exact fun hmem => by simpa using List.all_eq_true.mp List.all_takeWhile _ hmem
  · exact fun c hc => List.all_eq_true.mp List.all_takeWhile c hc

/-- An end tag in front of the pieces stays. -/
theorem dropLocal_end (hq : q.tag.ends "script" = true) (ps : List Piece) :
    dropLocal (reference? "script" "src" behindScript) (piecesText (q :: ps)) =
      q.tag.text ++ (q.content.text ++
        dropLocal (reference? "script" "src" behindScript) (piecesText ps)) := by
  rw [piecesText_cons]
  refine dropLocal_piece (reference?_startsAtMark _ _ _) ?_
  cases hclosing : q.tag with
  | opening t => simp [hclosing, Tag.ends] at hq
  | closing t =>
    rw [reference?, startTagName?_closing isLowerName_script (by decide)]
    rfl

/-- Behind a script with a source that its end tag does not follow, no mark closes another one. -/
theorem ScriptsRead.behindTag_eq_none (h : ScriptsRead (p :: ps))
    (hnone : behindScript (p.content.text ++ piecesText ps) = none) (a : Attribute)
    (ha : p.tag.attribute? "script" "src" = some a) (v : Text)
    (hv : a.quote :: v <:+ p.content.text ++ piecesText ps) : behindTag behindScript v = none := by
  have hended : isEnded p ps = false := by
    cases hended : isEnded p ps with
    | false => rfl
    | true =>
      cases ps with
      | nil => simp [isEnded] at hended
      | cons q ps => simp [behindScript_of_isEnded hended] at hnone
  have hopen := h.closed p ps List.suffix_rfl hended a ha v hv
  cases hr : behindTag behindScript v with
  | none => rfl
  | some r => exact absurd (closesScript_of_behindTag hr) hopen

/-- A script that is local only where its end tag does not follow stays. -/
theorem dropLocal_script_kept (h : ScriptsRead (p :: ps))
    (hnot : isEnded p ps = true → p.tag.isReference "script" "src" = false) :
    dropLocal (reference? "script" "src" behindScript) (piecesText (p :: ps)) =
      p.tag.text ++ (p.content.text ++
        dropLocal (reference? "script" "src" behindScript) (piecesText ps)) := by
  rw [piecesText_cons]
  refine dropLocal_kept isLowerName_script (by decide) isLowerName_src (by decide)
    (h.tags p List.mem_cons_self) h.behindTag_eq_none rfl ?_
  intro r hr
  cases hended : isEnded p ps with
  | false => simp [behindScript_of_not_isEnded hended h.tail.ends] at hr
  | true =>
    refine ⟨hnot hended, ?_⟩
    cases ps with
    | nil => simp [isEnded] at hended
    | cons q ps =>
      have hq : q.tag.ends "script" = true := by
        simp only [isEnded, List.head?_cons, Option.any_some, Bool.and_eq_true] at hended
        exact hended.2
      obtain ⟨w, hw⟩ := exists_skipLineEnd q.content
      rw [behindScript_of_isEnded hended, Option.some.injEq] at hr
      subst hr
      refine ⟨p.content.text ++ (q.tag.text ++ w), ?_, ?_⟩
      · rw [piecesText_cons, hw]
        simp only [List.append_assoc]
      · rw [dropLocal_end hq, hw, dropLocal_content (reference?_startsAtMark _ _ _)
          q.content.skipLineEnd.markless]
        simp only [List.append_assoc]

/-- A local script goes away with its end tag and the end of the line. -/
theorem dropLocal_script_dropped (h : ScriptsRead (p :: q :: ps))
    (his : p.tag.isReference "script" "src" = true) (hended : isEnded p (q :: ps) = true) :
    dropLocal (reference? "script" "src" behindScript) (piecesText (p :: q :: ps)) =
      q.content.skipLineEnd.text ++
        dropLocal (reference? "script" "src" behindScript) (piecesText ps) := by
  obtain ⟨w, hw⟩ := exists_skipLineEnd q.content
  have hsplit : p.content.text ++ piecesText (q :: ps) =
      (p.content.text ++ (q.tag.text ++ w)) ++ (q.content.skipLineEnd.text ++ piecesText ps) := by
    rw [piecesText_cons, hw]
    simp only [List.append_assoc]
  have hbehind := behindScript_of_isEnded hended
  rw [hsplit] at hbehind
  rw [piecesText_cons, hsplit, dropLocal_dropped isLowerName_script (by decide) isLowerName_src
    (by decide) (h.tags p List.mem_cons_self) his hbehind,
    dropLocal_content (reference?_startsAtMark _ _ _) q.content.skipLineEnd.markless]

/-- The search for scripts leaves what is left without the local ones. -/
theorem dropLocal_scripts (h : ScriptsRead ps) :
    dropLocal scriptReference? (piecesText ps) =
      (dropScripts ps).1.text ++ piecesText (dropScripts ps).2 := by
  rw [scriptReference?_eq]
  induction ps using dropScripts.induct with
  | case1 =>
    rw [piecesText, List.flatMap_nil, dropLocal]
    rfl
  | case2 p =>
    rw [dropLocal_script_kept h (by simp [isEnded]), piecesText, List.flatMap_nil, dropLocal]
    simp [dropScripts, Content.empty, piecesText]
  | case3 p q ps hcond ih =>
    obtain ⟨his, hblank, hq⟩ := hcond
    rw [dropLocal_script_dropped h his (by simp [isEnded, hblank, hq]), ih h.tail.tail,
      dropScripts, if_pos ⟨his, hblank, hq⟩]
    simp [Rest.behind, Content.append]
  | case4 p q ps hcond ih =>
    have hnot (hended : isEnded p (q :: ps) = true) :
        p.tag.isReference "script" "src" = false := by
      obtain ⟨hblank, hq⟩ : p.content.text.isBlank = true ∧ q.tag.ends "script" = true := by
        simpa [isEnded] using hended
      exact Bool.eq_false_iff.mpr fun his => hcond ⟨his, hblank, hq⟩
    rw [dropLocal_script_kept h hnot, ih h.tail, dropScripts, if_neg hcond]
    simp [Rest.behindPiece, Content.append, Content.empty, piecesText_cons]

end Scripts

section Documents

/-- Dropping the scripts leaves tags of the document only. -/
theorem exists_tag_of_mem_dropScripts (hp : p ∈ (dropScripts ps).2) : ∃ q ∈ ps, q.tag = p.tag := by
  induction ps using dropScripts.induct with
  | case1 => simp [dropScripts] at hp
  | case2 q =>
    obtain rfl : p = q := by simpa [dropScripts] using hp
    exact ⟨p, by simp, rfl⟩
  | case3 x y ps hcond ih =>
    rw [dropScripts, if_pos hcond] at hp
    obtain ⟨q, hq, htag⟩ := ih hp
    exact ⟨q, by simp [hq], htag⟩
  | case4 x y ps hcond ih =>
    rw [dropScripts, if_neg hcond] at hp
    rcases List.mem_cons.mp hp with rfl | hp
    · exact ⟨x, by simp, rfl⟩
    · obtain ⟨q, hq, htag⟩ := ih hp
      exact ⟨q, List.mem_cons_of_mem x hq, htag⟩

theorem LinksRead.dropScripts (h : LinksRead ps) : LinksRead (dropScripts ps).2 := by
  intro p hp
  obtain ⟨q, hq, htag⟩ := exists_tag_of_mem_dropScripts hp
  exact htag ▸ h q hq

/-- The document without its references to local files is what is left of it, where its script and
link tags are read as they are written and no script with a source runs on into a later one. -/
theorem stripLocalReferences_document (d : Document) (hscripts : ScriptsRead d.pieces)
    (hlinks : LinksRead d.pieces) : stripLocalReferences d.text = d.withoutLocal.text := by
  have hscript : dropLocal scriptReference? d.text = (d.changed Markup.dropScripts).text := by
    rw [Document.text, scriptReference?_eq,
      dropLocal_content (reference?_startsAtMark _ _ _) d.lead.markless, ← scriptReference?_eq,
      dropLocal_scripts hscripts]
    simp [Document.changed, Document.text, Content.append]
  have hlink (e : Document) (he : LinksRead e.pieces) :
      dropLocal linkReference? e.text = (e.changed dropLinks).text := by
    rw [Document.text, linkReference?_eq,
      dropLocal_content (reference?_startsAtMark _ _ _) e.lead.markless, ← linkReference?_eq,
      dropLocal_links he]
    simp [Document.changed, Document.text, Content.append]
  rw [stripLocalReferences, hscript, hlink _ hlinks.dropScripts]
  rfl

def scriptName : Name := ⟨"script", by decide, by decide⟩

def sourceName : Name := ⟨"src", by decide, by decide⟩

/-- A script tag with an address. -/
def sourceTag (address : Text)
    (h : ∀ c ∈ address, c ∉ [ofChar '"', ofChar '\'', ofChar '<', ofChar '>']) : Tag :=
  .opening ⟨scriptName, [⟨" ", sourceName, '"', address, by decide, by decide, by decide, h⟩], [],
    by simp⟩

def scriptEnd : Tag := .closing ⟨scriptName, [], by simp⟩

/-- A page with a local style, a remote script, a local one and a script with both a source and a
text. -/
def page : Document where
  lead := ⟨"Hi > all", rfl⟩
  pieces :=
    [⟨.opening ⟨⟨"LINK", by decide, by decide⟩, [⟨" ", ⟨"href", by decide, by decide⟩, '\'',
        "a.css", by decide, by decide, by decide, by decide⟩], "/", by decide⟩, ⟨" \n", rfl⟩⟩,
      ⟨sourceTag "//b.js" (by decide), .empty⟩, ⟨scriptEnd, .empty⟩,
      ⟨sourceTag " c.js" (by decide), ⟨"\n", rfl⟩⟩, ⟨scriptEnd, ⟨"\n\n", rfl⟩⟩,
      ⟨sourceTag "d.js" (by decide), ⟨"e()", rfl⟩⟩, ⟨scriptEnd, .empty⟩]

theorem scriptsRead_page : ScriptsRead page.pieces where
  tags := by decide +kernel
  ends := by decide +kernel
  closed := by
    -- no mark like those of its source stands behind the script with a text
    have hquotes : ∀ rs ∈ page.pieces.tails, ∀ p ∈ rs.head?, isEnded p rs.tail = true ∨
        ∀ a ∈ p.tag.attribute? "script" "src", a.quote ∉ p.content.text ++ piecesText rs.tail := by
      decide +kernel
    intro p qs h hended a ha v hv
    rcases hquotes (p :: qs) ((List.mem_tails _ _).mpr h) p rfl with h' | h'
    · exact absurd h' (by simp [hended])
    · exact absurd (hv.subset List.mem_cons_self) (h' a ha)

theorem stripLocalReferences_page :
    (ScriptsRead page.pieces ∧ LinksRead page.pieces) ∧
      stripLocalReferences page.text = page.withoutLocal.text :=
  ⟨⟨scriptsRead_page, by decide +kernel⟩,
    stripLocalReferences_document page scriptsRead_page (by decide +kernel)⟩

/-- A script with a source and a text in front of a remote one. -/
def overrun : Document where
  lead := .empty
  pieces := [⟨sourceTag "a.js" (by decide), ⟨"x", rfl⟩⟩, ⟨scriptEnd, .empty⟩,
    ⟨sourceTag "https://cdn.example.com/x.js" (by decide), .empty⟩, ⟨scriptEnd, .empty⟩]

/-- The first source runs on to the mark that opens the second one, and both scripts go away. -/
theorem stripLocalReferences_overrun_ne :
    stripLocalReferences overrun.text ≠ overrun.withoutLocal.text := by
  decide +kernel

end Documents

end SitePreview.Markup
