import SitePreview.Proofs.Document.WholeFragments

/-! Document types. A passed-through document that starts with a document type declaration keeps it
in front exactly if it has the start tag of a head or of a root element: every fragment is put in
behind the declaration then, and otherwise the diagnostics are put in front of it. -/

namespace SitePreview.Document

open Text Markup

/-- A declaration of the document type, in letters of any case, up to the first end of a tag. -/
structure IsDocumentType (declaration : Text) : Prop where
  starts : (afterFolded? "<!doctype" declaration).isSome = true
  ends : ∃ inner : Text, declaration = inner ++ ">" ∧ CodePoint.ofChar '>' ∉ inner

/-- The starts of the tags that are looked for in a document, but for those behind which a fragment
is put in. -/
def soughtWords : List Text := "<script" :: "<link" :: placeWords

/-- No tag that is looked for starts in the text. -/
def Inert (t : Text) : Prop := ∀ word ∈ soughtWords, freeOf word t = true

instance (t : Text) : Decidable (Inert t) := List.decidableBAll _ _

/-- The start tag of the element stands somewhere in the document. -/
def hasStartTag (element document : Text) : Bool := (first? (startTag? element) document).isSome

variable {files : FileSet} {options : PreviewOptions} {mode : Option RenderMode}
  {path front blank declaration rest s t word document fragment : Text} {f : Found}
  {reference : Text → Option (Text × Text)}

theorem Inert.placeless (h : Inert t) : Placeless t := fun word hword =>
  h word (List.mem_cons_of_mem _ (List.mem_cons_of_mem _ hword))

/-- The tags that are looked for start with the mark of a tag. -/
theorem inert_of_markless (h : markless t = true) : Inert t := by
  have hname : ∀ word ∈ soughtWords, ∃ name : Text, word = ('<' :: name : Text) :=
    List.forall_mem_cons.mpr ⟨⟨"script", rfl⟩, List.forall_mem_cons.mpr ⟨⟨"link", rfl⟩,
      fun _ hword => exists_name_of_placeWord hword⟩⟩
  intro word hword
  obtain ⟨name, rfl⟩ := hname word hword
  exact freeOf_of_markless h

theorem inert_append (hs : Inert s) (ht : Inert t) : Inert (s ++ t) :=
  fun word hword => freeOf_append (hs word hword) (ht word hword)

/-- Where no tag starts, no reference is dropped. -/
theorem dropLocal_append (h : ∀ s, afterFolded? word s = none → reference s = none)
    (hfront : freeOf word front = true) (s : Text) :
    dropLocal reference (front ++ s) = front ++ dropLocal reference s := by
  induction front with
  | nil => rfl
  | cons c front ih =>
    have hnone := h _ (afterFolded?_of_freeOf hfront (List.cons_ne_nil c front) s)
    rw [List.cons_append] at hnone ⊢
    rw [dropLocal, hnone]
    exact congrArg (c :: ·) (ih (freeOf_cons.mp hfront).2)

theorem stripLocalReferences_append (hfront : Inert front) (s : Text) :
    stripLocalReferences (front ++ s) = front ++ stripLocalReferences s := by
  have hscript (s : Text) (h : afterFolded? "<script" s = none) : scriptReference? s = none := by
    rw [scriptReference?, (startTagName?_startsWith "script").eq_none h]
    rfl
  have hlink (s : Text) (h : afterFolded? "<link" s = none) : linkReference? s = none := by
    rw [linkReference?, (startTagName?_startsWith "link").eq_none h]
    rfl
  rw [stripLocalReferences, stripLocalReferences,
    dropLocal_append hscript (hfront "<script" (by decide)),
    dropLocal_append hlink (hfront "<link" (by decide))]

/-- A start tag ends with its mark. -/
theorem exists_of_startTag? {element : Text} (h : startTag? element s = some rest) :
    ∃ inner, s = inner ++ CodePoint.ofChar '>' :: rest := by
  simp only [startTag?, Option.bind_eq_bind, Option.bind_eq_some_iff] at h
  obtain ⟨t, ht, h⟩ := h
  have hend : t.dropWhile (fun c : CodePoint => c ≠ '>') = CodePoint.ofChar '>' :: rest :=
    eq_append_of_after? h
  obtain ⟨name, rfl⟩ : t <:+ s := startTagName?_leavesEnd element s t ht
  obtain ⟨attributes, rfl⟩ := hend ▸ List.dropWhile_suffix fun c : CodePoint => c ≠ '>'
  exact ⟨name ++ attributes, (List.append_assoc ..).symm⟩

/-- The first end of a tag stands no later than that of a tag that is found. -/
theorem prefix_of_finds {element inner : Text} (hinner : CodePoint.ofChar '>' ∉ inner)
    (hf : Finds (startTag? element) (inner ++ CodePoint.ofChar '>' :: s) f) :
    (inner ++ ">" : Text) <+: f.before ++ f.tag := by
  obtain ⟨attributes, htag⟩ := exists_of_startTag? hf.here
  rw [List.append_cons, List.append_left_inj] at htag
  have hfound : f.before ++ f.tag <+: inner ++ CodePoint.ofChar '>' :: s := by
    rw [hf.splits, ← List.append_assoc]
    exact List.prefix_append _ _
  have hfirst : inner ++ [CodePoint.ofChar '>'] <+: inner ++ CodePoint.ofChar '>' :: s :=
    ⟨s, List.append_assoc ..⟩
  refine (List.prefix_or_prefix_of_prefix hfirst hfound).elim id fun hbefore => ?_
  rcases List.prefix_concat_iff.mp hbefore with heq | hbefore
  · exact heq ▸ List.prefix_rfl
  · -- the found tag would end within the text in front of the first end of a tag
    refine absurd (hbefore.subset ?_) hinner
    rw [htag]
    simp

/-- Where the document has the start tag of a head or of a root element, the diagnostics are put in
behind the first end of a tag. -/
theorem prefix_insertHeadStart {inner : Text} (hinner : CodePoint.ofChar '>' ∉ inner)
    (h : hasStartTag "head" (inner ++ CodePoint.ofChar '>' :: s) = true ∨
      hasStartTag "html" (inner ++ CodePoint.ofChar '>' :: s) = true) (fragment : Text) :
    (inner ++ ">" : Text) <+: insertHeadStart (inner ++ CodePoint.ofChar '>' :: s) fragment := by
  have hbehind {element : Text} {f : Found} (hf : first? (startTag? element)
      (inner ++ CodePoint.ofChar '>' :: s) = some f) (more : Text) :
      (inner ++ ">" : Text) <+: f.before ++ f.tag ++ more :=
    (prefix_of_finds hinner (finds_first? (startTag?_leavesEnd element) hf)).trans
      (List.prefix_append _ more)
  rw [insertHeadStart]
  split
  · next f hf =>
    rw [List.append_assoc _ _ f.after, List.append_assoc]
    exact hbehind hf _
  next hhead =>
  split
  · next f hf =>
    simpa only [List.append_assoc] using hbehind hf _
  next hroot =>
  rw [hasStartTag, hasStartTag, hhead, hroot] at h
  exact absurd h (by decide)

/-- What no fragment is put into stays in front of a passed-through document. -/
theorem prefix_passthrough (options : PreviewOptions) (hdocument : files.fullDocument? = some path)
    (hfront : Placeless front) (h : front <+: opened files path) :
    front <+: passthrough files options := by
  obtain ⟨t, ht⟩ := h
  rw [passthrough_eq hdocument, styled, framed, ← ht, insertPart_behind hfront.insertHeadEnd,
    insertPart_behind hfront.insertHeadEnd, insertPart_behind hfront.insertBodyEnd]
  exact List.prefix_append _ _

/-- The diagnostics do not start like a document type behind white space. -/
theorem not_prefix_of_diagnostics {document : Text} (hblank : ∀ c ∈ blank, c.isBlank = true)
    (hdeclaration : IsDocumentType declaration) (h : diagnostics <+: document) :
    ¬blank ++ declaration <+: document := by
  obtain ⟨more, rfl⟩ := h
  rintro ⟨behind, heq⟩
  cases blank with
  | cons c blank =>
    obtain rfl : c = '<' := (List.cons.inj heq).1
    exact absurd (hblank _ List.mem_cons_self) (by decide)
  | nil =>
    have hfree : freeOf "<!doctype" diagnostics = true :=
      freeOf_diagnostics (by decide +kernel) (by decide +kernel)
    have hsome := isSome_afterFolded?_append hdeclaration.starts behind
    rw [List.nil_append] at heq
    rw [heq, afterFolded?_of_freeOf hfree diagnostics_ne_nil] at hsome
    cases hsome

/-- A document type declaration in front of the document to pass through, perhaps behind white
space, stays in front exactly if the document, without its local references, has the start tag of a
head or of a root element. No other tag that is looked for may start in the declaration itself. -/
theorem doctype_first_iff (hmode : mode.getD files.renderMode = .passthrough)
    (hdocument : files.fullDocument? = some path)
    (hcontent : files.content path = blank ++ declaration ++ rest)
    (hblank : ∀ c ∈ blank, c.isBlank = true) (hdeclaration : IsDocumentType declaration)
    (hinert : Inert declaration) :
    blank ++ declaration <+: render files mode options ↔
      hasStartTag "head" (stripLocalReferences (files.content path)) = true ∨
        hasStartTag "html" (stripLocalReferences (files.content path)) = true := by
  have hplain {d : CodePoint} (hd : d.isBlank = false) : d ∉ blank := by
    intro hmem
    rw [hblank d hmem] at hd
    cases hd
  have hmarkless : markless blank = true := by
    refine List.all_eq_true.mpr fun c hc => decide_eq_true ?_
    rintro rfl
    exact hplain (by decide) hc
  have hfront : Inert (blank ++ declaration) := inert_append (inert_of_markless hmarkless) hinert
  rw [render, hmode]
  dsimp only
  constructor
  · intro hprefix
    by_contra hnone
    rw [not_or, hasStartTag, hasStartTag, Option.not_isSome_iff_eq_none,
      Option.not_isSome_iff_eq_none] at hnone
    have hopened : diagnostics <+: opened files path := by
      rw [opened, insertHeadStart, hnone.1, hnone.2]
      exact ⟨_, (List.append_assoc ..).symm⟩
    exact not_prefix_of_diagnostics hblank hdeclaration
      (prefix_passthrough options hdocument placeless_diagnostics hopened) hprefix
  · intro htag
    refine prefix_passthrough options hdocument hfront.placeless ?_
    obtain ⟨inner, rfl, hmark⟩ := hdeclaration.ends
    have hstripped : stripLocalReferences (files.content path) =
        (blank ++ inner) ++ CodePoint.ofChar '>' :: stripLocalReferences rest := by
      rw [hcontent, stripLocalReferences_append hfront]
      simp only [List.append_assoc]
      rfl
    have hend : CodePoint.ofChar '>' ∉ blank ++ inner :=
      fun h => (List.mem_append.mp h).elim (hplain (by decide)) hmark
    rw [hstripped] at htag
    rw [opened, hstripped, ← List.append_assoc]
    exact prefix_insertHeadStart hend htag diagnostics

/-- A page without a head in which a style file holds the end tag of a body. -/
def rootedFiles : FileSet := .ofList [("index.html", "\n<!DocType HTML>\n<HTML><body>hi</BODY >"),
  ("a.css", "/* </body> */"), ("b.js", "var s = '<head>';")]

theorem doctype_first_iff_rootedFiles :
    rootedFiles.renderMode = .passthrough ∧
      rootedFiles.content "index.html" = "\n" ++ "<!DocType HTML>" ++ "\n<HTML><body>hi</BODY >" ∧
      ("\n" ++ "<!DocType HTML>" : Text) <+: render rootedFiles none {} := by
  have hmode : rootedFiles.renderMode = .passthrough := by decide +kernel
  have hcontent : rootedFiles.content "index.html" =
      "\n" ++ "<!DocType HTML>" ++ "\n<HTML><body>hi</BODY >" := by decide +kernel
  refine ⟨hmode, hcontent, ?_⟩
  have hdetected : (none : Option RenderMode).getD rootedFiles.renderMode = .passthrough := hmode
  have hdeclaration : IsDocumentType "<!DocType HTML>" :=
    ⟨by decide +kernel, "<!DocType HTML", by decide +kernel, by decide +kernel⟩
  refine (doctype_first_iff hdetected (by decide +kernel) hcontent (by decide) hdeclaration
    (by decide +kernel)).mpr (.inr ?_)
  decide +kernel

/-- A page that needs neither a head nor a root element. -/
def bareFiles : FileSet := .ofList [("index.html", "<!DOCTYPE html>hi")]

/-- The diagnostics stand in front of its declaration. -/
theorem doctype_behind_bareFiles :
    bareFiles.renderMode = .passthrough ∧
      bareFiles.content "index.html" = "<!DOCTYPE html>" ++ "hi" ∧
      ¬("<!DOCTYPE html>" : Text) <+: render bareFiles none {} := by
  have hmode : bareFiles.renderMode = .passthrough := by decide +kernel
  refine ⟨hmode, by decide +kernel, ?_⟩
  have hheadless : Headless bareFiles {} "index.html" :=
    ⟨by decide +kernel, by decide +kernel, by decide +kernel⟩
  have hdeclaration : IsDocumentType "<!DOCTYPE html>" :=
    ⟨by decide +kernel, "<!DOCTYPE html", by decide +kernel, by decide +kernel⟩
  have hblank : ∀ c ∈ ([] : Text), c.isBlank = true := List.forall_mem_nil _
  rw [render, Option.getD_none, hmode]
  dsimp only
  rw [hheadless.passthrough_eq (by decide +kernel)]
  exact not_prefix_of_diagnostics hblank hdeclaration (List.prefix_append diagnostics _)

end SitePreview.Document
