import SitePreview.Document.Render
import SitePreview.Proofs.Document.Insertion

/-! Passed-through documents are the project's own with whole fragments put in, as long as the
scripts are not put in at an end tag inside a style file. -/

namespace SitePreview.Document

open Text Markup

variable (files : FileSet) (options : PreviewOptions) (path : Text)

/-- The project's styles in one element. -/
def projectStyles : Text := styleBlock false (contentsOfKind files .style)

/-- The project's scripts in one element. -/
def projectScripts : Text := scriptBlock (contentsOfKind files .script)

/-- The project's document with the diagnostics. -/
def opened : Text := insertHeadStart (stripLocalReferences (files.content path)) diagnostics

/-- The tag of the framework, if it is to be put in. -/
def missingFramework : Text :=
  if hasFramework options (opened files path) then [] else frameworkTag files options

/-- The document with the diagnostics and the framework. -/
def framed : Text :=
  insertPart insertHeadEnd (opened files path) (missingFramework files options path)

/-- The document with the diagnostics, the framework and the styles. -/
def styled : Text := insertPart insertHeadEnd (framed files options path) (projectStyles files)

/-- The scripts, if there are any, are not put in inside the styles. -/
def scriptsOutsideStyles : Bool :=
  projectScripts files = [] || (bodyEnd? (styled files options path)).all fun f =>
    f.before.length ≤ headPlace (framed files options path) ||
      headPlace (framed files options path) + (projectStyles files).length ≤ f.before.length

variable {files : FileSet} {options : PreviewOptions} {path : Text} {mode : Option RenderMode}
  {document fragment : Text} {fragments : List Text} {parts : List Part}

theorem passthrough_eq (h : files.fullDocument? = some path) :
    passthrough files options =
      insertPart insertBodyEnd (styled files options path) (projectScripts files) := by
  simp only [passthrough, h]
  rfl

theorem Assembly.skip (h : Assembly document fragments parts) :
    Assembly document (fragments ++ [[]]) parts :=
  ⟨h.own, by simpa using h.fragments, h.joints⟩

theorem Put.allSolid {ps qs : List Part} (h : Put document fragments fragment ps qs)
    (hfragment : Solid fragment) : AllSolid (ps ++ .fragment fragment :: qs) := by
  rw [List.append_cons]
  exact (h.solid.left.append (allSolid_fragment hfragment)).append h.solid.right

theorem exists_parts_framed (files : FileSet) (options : PreviewOptions) (path : Text) :
    ∃ parts, Assembly (stripLocalReferences (files.content path))
        [diagnostics, missingFramework files options path] parts ∧
      AllSolid parts ∧ textOf parts = framed files options path := by
  obtain ⟨ps, qs, hput, htext⟩ :=
    exists_put_headStart (stripLocalReferences (files.content path)) diagnostics_ne_nil
  have hsolid := hput.allSolid solid_diagnostics
  rw [framed, insertPart]
  split
  · next hnone =>
    rw [hnone]
    exact ⟨_, hput.assembly.skip, hsolid, htext⟩
  · next hsome =>
    obtain ⟨xs, ys, hput', htext', -⟩ := exists_put_headEnd hput.assembly hsolid hsome
    refine ⟨_, hput'.assembly, hput'.allSolid ?_, ?_⟩
    · rw [missingFramework]
      split
      · exact fun _ _ => rfl
      · exact solid_frameworkTag files options
    · rw [htext', htext]
      rfl

/-- The styles are put in whole as well, and all can be split at a place that is not inside them. -/
theorem exists_parts_styled (files : FileSet) (options : PreviewOptions) (path : Text) :
    ∃ parts, Assembly (stripLocalReferences (files.content path))
        [diagnostics, missingFramework files options path, projectStyles files] parts ∧
      textOf parts = styled files options path ∧
      ∀ f, IsPlace (styled files options path) f →
        (f.before.length ≤ headPlace (framed files options path) ∨
          headPlace (framed files options path) + (projectStyles files).length ≤
            f.before.length) →
        ∃ xs ys, textOf xs = f.before ∧ textOf ys = f.tag ++ f.after ∧ SplitAt parts xs ys := by
  obtain ⟨parts, hassembly, hsolid, htext⟩ := exists_parts_framed files options path
  rw [styled, insertPart]
  split
  · next hnone =>
    rw [hnone]
    refine ⟨parts, hassembly.skip, htext, fun f hplace _ => ?_⟩
    obtain ⟨hsplits, word, hword, hsome⟩ := hplace
    exact exists_splitAt [] (fun p hp => hsolid p hp word hword) (htext.trans hsplits)
      (by simpa using hsome)
  · next hsome =>
    obtain ⟨ps, qs, hput, htext', hlength⟩ := exists_put_headEnd hassembly hsolid hsome
    rw [htext] at htext' hlength
    refine ⟨_, hput.assembly, htext', fun f hplace hbeside => ?_⟩
    rw [← htext'] at hplace
    rw [← hlength] at hbeside
    exact exists_splitAt_beside hput.solid hplace hbeside

/-- A passed-through document is the project's own, without its local references, in which the
diagnostics, the framework if it is missing, the styles and the scripts stand whole, each apart from
all others. -/
theorem passthrough_whole (hmode : mode.getD files.renderMode = .passthrough)
    (hdocument : files.fullDocument? = some path)
    (houtside : scriptsOutsideStyles files options path = true) :
    ∃ parts, textOf parts = render files mode options ∧
      Assembly (stripLocalReferences (files.content path))
        [diagnostics, missingFramework files options path, projectStyles files,
          projectScripts files] parts := by
  obtain ⟨parts, hassembly, htext, hsplit⟩ := exists_parts_styled files options path
  rw [render, hmode]
  dsimp only
  rw [passthrough_eq hdocument, insertPart]
  split
  · next hnone =>
    rw [hnone]
    exact ⟨parts, htext, hassembly.skip⟩
  · next hsome =>
    rw [scriptsOutsideStyles, Bool.or_eq_true, decide_eq_true_eq] at houtside
    have hbeside := houtside.resolve_left hsome
    rw [← htext]
    obtain ⟨parts', hassembly', htext'⟩ := exists_put_bodyEnd hassembly hsome fun f hf => by
      rw [htext] at hf
      rw [hf, Option.all_some, Bool.or_eq_true, decide_eq_true_eq, decide_eq_true_eq] at hbeside
      exact hsplit f (isPlace_of_bodyEnd? hf) hbeside
    exact ⟨parts', htext', hassembly'⟩

theorem freeOf_diagnostics {name : Text} (hstart : mayStart ('<' :: name) "<script>\n" = false)
    (hend : freeOf ('<' :: name) "</script>" = true) :
    freeOf ('<' :: name) diagnostics = true := by
  rw [diagnostics, List.append_assoc]
  refine freeOf_append (freeOf_cons.mpr ⟨hstart, freeOf_of_markless rfl⟩) ?_
  exact freeOf_append (freeOf_of_markless markless_diagnosticsScript)
    (freeOf_append (freeOf_of_markless (t := "\n") rfl) hend)

/-- No place for a fragment starts in the text, whatever follows it. -/
def Placeless (t : Text) : Prop := ∀ word ∈ placeWords, freeOf word t = true

theorem placeless_diagnostics : Placeless diagnostics := by
  intro word hword
  have hstart : ∀ word ∈ placeWords, mayStart word "<script>\n" = false := by decide +kernel
  have hend : ∀ word ∈ placeWords, freeOf word "</script>" = true := by decide +kernel
  obtain ⟨name, rfl⟩ := exists_name_of_placeWord hword
  exact freeOf_diagnostics (hstart _ hword) (hend _ hword)

theorem insertBefore_behind (front : Text) (f : Found) (fragment : Text) :
    insertBefore (f.behind front) fragment = front ++ insertBefore f fragment := by
  simp [insertBefore, Found.behind]

theorem insertPart_behind {insert : Text → Text → Text} {front : Text}
    (h : ∀ t fragment, insert (front ++ t) fragment = front ++ insert t fragment)
    (t fragment : Text) :
    insertPart insert (front ++ t) fragment = front ++ insertPart insert t fragment := by
  rw [insertPart, insertPart]
  split
  · rfl
  · exact h t fragment

namespace Placeless

variable {front : Text}

/-- Places behind such a text are found as if it were not there. -/
theorem headEnd? (h : Placeless front) (t : Text) :
    headEnd? (front ++ t) = (Document.headEnd? t).map (Found.behind front) := by
  rw [Document.headEnd?, first?_append (endTag?_startsWith "head") (h "</head" (by decide)),
    first?_append (startTagName?_startsWith "body") (h "<body" (by decide)), Document.headEnd?]
  cases first? (endTag? "head") t <;> rfl

theorem bodyEnd? (h : Placeless front) (t : Text) :
    bodyEnd? (front ++ t) = (Document.bodyEnd? t).map (Found.behind front) := by
  rw [Document.bodyEnd?, last?_append (endTag?_startsWith "body") (h "</body" (by decide)),
    last?_append (endTag?_startsWith "html") (h "</html" (by decide)), Document.bodyEnd?]
  cases last? (endTag? "body") t <;> rfl

theorem insertHeadEnd (h : Placeless front) (t fragment : Text) :
    insertHeadEnd (front ++ t) fragment = front ++ Document.insertHeadEnd t fragment := by
  rw [insertHeadEnd_eq, insertHeadEnd_eq, h.headEnd?]
  cases Document.headEnd? t with
  | none => simp
  | some f => exact insertBefore_behind front f fragment

theorem insertBodyEnd (h : Placeless front) (t fragment : Text) :
    insertBodyEnd (front ++ t) fragment = front ++ Document.insertBodyEnd t fragment := by
  rw [insertBodyEnd_eq, insertBodyEnd_eq, h.bodyEnd?]
  cases Document.bodyEnd? t with
  | none => simp
  | some f => exact insertBefore_behind front f fragment

theorem headPlace (h : Placeless front) (t : Text) :
    headPlace (front ++ t) = front.length + Document.headPlace t := by
  rw [Document.headPlace, Document.headPlace, h.headEnd?]
  cases Document.headEnd? t with
  | none => simp [Nat.add_assoc]
  | some f => simp [Found.behind]

end Placeless

/-- Whether the scripts are outside the styles can be told behind a text that is passed by. -/
theorem scriptsOutsideStyles_eq {front s t : Text}
    (hframed : framed files options path = front ++ s)
    (hstyled : styled files options path = front ++ t)
    (hplace : headPlace (front ++ s) = front.length + headPlace s)
    (hbody : bodyEnd? (front ++ t) = (bodyEnd? t).map (Found.behind front)) :
    scriptsOutsideStyles files options path = (projectScripts files = [] ||
      (bodyEnd? t).all fun f => f.before.length ≤ headPlace s ||
        headPlace s + (projectStyles files).length ≤ f.before.length) := by
  rw [scriptsOutsideStyles, hframed, hstyled, hbody, hplace]
  cases bodyEnd? t with
  | none => rfl
  | some f => simp [Found.behind, Nat.add_assoc]

/-- The document has neither a head nor a root element, and the framework is not asked for. The
diagnostics stand in front of it then, and everything else is put in behind them. -/
structure Headless (files : FileSet) (options : PreviewOptions) (path : Text) : Prop where
  head : (first? (startTag? "head") (stripLocalReferences (files.content path))).isNone = true
  root : (first? (startTag? "html") (stripLocalReferences (files.content path))).isNone = true
  framework : frameworkTag files options = []

namespace Headless

theorem framed_eq (h : Headless files options path) :
    framed files options path =
      diagnostics ++ ("\n" ++ stripLocalReferences (files.content path)) := by
  rw [framed, insertPart, missingFramework, h.framework, ite_self, if_pos rfl, opened,
    insertHeadStart, Option.isNone_iff_eq_none.mp h.head, Option.isNone_iff_eq_none.mp h.root]
  exact List.append_assoc ..

theorem styled_eq (h : Headless files options path) :
    styled files options path = diagnostics ++ insertPart insertHeadEnd
      ("\n" ++ stripLocalReferences (files.content path)) (projectStyles files) := by
  rw [styled, h.framed_eq]
  exact insertPart_behind placeless_diagnostics.insertHeadEnd ..

theorem passthrough_eq (h : Headless files options path)
    (hdocument : files.fullDocument? = some path) :
    passthrough files options = diagnostics ++ insertPart insertBodyEnd (insertPart insertHeadEnd
      ("\n" ++ stripLocalReferences (files.content path)) (projectStyles files))
      (projectScripts files) := by
  rw [Document.passthrough_eq hdocument, h.styled_eq]
  exact insertPart_behind placeless_diagnostics.insertBodyEnd ..

end Headless

/-- A style file holds an end tag, but the document ends with one of its own. -/
def tidyFiles : FileSet := .ofList [("index.html", "<!DOCTYPE html><body>hi</body>"),
  ("a.css", "/* </body> */"), ("b.js", "var s = '</style>';")]

theorem passthrough_whole_tidyFiles :
    scriptsOutsideStyles tidyFiles {} "index.html" = true ∧
      ∃ parts, textOf parts = render tidyFiles (some .passthrough) {} ∧
        Assembly (stripLocalReferences (tidyFiles.content "index.html"))
          [diagnostics, missingFramework tidyFiles {} "index.html", projectStyles tidyFiles,
            projectScripts tidyFiles] parts := by
  have hheadless : Headless tidyFiles {} "index.html" :=
    ⟨by decide +kernel, by decide +kernel, by decide +kernel⟩
  have houtside : scriptsOutsideStyles tidyFiles {} "index.html" = true := by
    rw [scriptsOutsideStyles_eq hheadless.framed_eq hheadless.styled_eq
      (placeless_diagnostics.headPlace _) (placeless_diagnostics.bodyEnd? _)]
    decide +kernel
  exact ⟨houtside, passthrough_whole rfl (by decide +kernel) houtside⟩

/-- The document has no end tag, so that the one in a style file is taken for its own. -/
def strayFiles : FileSet := .ofList [("index.html", "<!DOCTYPE html>hi"),
  ("a.css", "/* </body> */"), ("b.js", "var s = '</style>';")]

theorem render_strayFiles : render strayFiles (some .passthrough) {} = diagnostics ++
    ("\n<!DOCTYPE html>hi\n<style>\n/* <script>\nvar s = '</style>';\n</script>\n</body> */\n" ++
      "</style>") := by
  have hheadless : Headless strayFiles {} "index.html" :=
    ⟨by decide +kernel, by decide +kernel, by decide +kernel⟩
  rw [render, Option.getD_some]
  dsimp only
  rw [hheadless.passthrough_eq (by decide +kernel)]
  exact congrArg (diagnostics ++ ·) (by decide +kernel)

/-- The scripts are put in inside the styles there. -/
theorem not_infix_strayFiles :
    ¬ projectStyles strayFiles <:+: render strayFiles (some .passthrough) {} := by
  intro hinfix
  rw [render_strayFiles] at hinfix
  have hfree : freeOf "<style" diagnostics = true :=
    freeOf_diagnostics (by decide +kernel) (by decide +kernel)
  have hrest := infix_of_freeOf hfree (by decide +kernel) hinfix
  exact absurd hrest (by decide +kernel)

theorem styles_split_strayFiles :
    ¬ ∃ parts, textOf parts = render strayFiles (some .passthrough) {} ∧
      Assembly (stripLocalReferences (strayFiles.content "index.html"))
        [diagnostics, missingFramework strayFiles {} "index.html", projectStyles strayFiles,
          projectScripts strayFiles] parts := by
  rintro ⟨parts, htext, hassembly⟩
  have hinfix := hassembly.infix (projectStyles strayFiles) (by simp) (by decide +kernel)
  rw [htext] at hinfix
  exact not_infix_strayFiles hinfix

end SitePreview.Document
