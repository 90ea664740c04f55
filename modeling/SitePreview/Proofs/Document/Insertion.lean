import SitePreview.Proofs.Document.Assembly
import SitePreview.Proofs.Document.Scripts

/-! Passed-through documents, fragment by fragment. A fragment is put in at a tag that is searched
for in a text that holds the earlier ones already; none of them but the style block can hold such a
tag. -/

namespace SitePreview.Document

open Text Markup

/-- The starts of the tags in front of which fragments are put in. -/
def placeWords : List Text := ["</head", "<body", "</body", "</html"]

/-- No place for another fragment lies inside the text. -/
def Solid (t : Text) : Prop := ∀ word ∈ placeWords, freeOf word t.tail = true

/-- No place for another fragment lies inside a part that is not the document's own. -/
def AllSolid (parts : List Part) : Prop := ∀ p ∈ parts, ∀ word ∈ placeWords, p.Closed word

variable {document fragment before rest : Text} {fragments : List Text} {parts ps qs : List Part}

theorem exists_name_of_placeWord {word : Text} (h : word ∈ placeWords) :
    ∃ name : Text, word = ('<' :: name : Text) := by
  have hall : ∀ word ∈ placeWords, ∃ name : Text, word = ('<' :: name : Text) := by
    simp only [placeWords, List.forall_mem_cons]
    exact ⟨⟨"/head", rfl⟩, ⟨"body", rfl⟩, ⟨"/body", rfl⟩, ⟨"/html", rfl⟩, fun _ h => nomatch h⟩
  exact hall word h

theorem solid_scriptTag {t : Text} (h : markless t = true) :
    Solid ("<" ++ t ++ "</script>") := by
  intro word hword
  have hend : ∀ word ∈ placeWords, freeOf word "</script>" = true := by decide +kernel
  obtain ⟨name, rfl⟩ := exists_name_of_placeWord hword
  exact freeOf_append (freeOf_of_markless h) (hend _ hword)

theorem diagnostics_eq :
    diagnostics = "<" ++ ("script>\n" ++ diagnosticsScript ++ "\n") ++ "</script>" := by
  simp only [diagnostics, List.append_assoc]
  rfl

theorem diagnostics_ne_nil : diagnostics ≠ [] := List.cons_ne_nil (CodePoint.ofChar '<') _

theorem solid_diagnostics : Solid diagnostics := by
  have hmarkless : markless ("script>\n" ++ diagnosticsScript ++ "\n") = true := by
    rw [markless_append, markless_append, markless_diagnosticsScript]
    rfl
  exact diagnostics_eq ▸ solid_scriptTag hmarkless

theorem solid_frameworkTag (files : FileSet) (options : PreviewOptions) :
    Solid (frameworkTag files options) := by
  rw [frameworkTag]
  split
  · have hmarkless : markless ("script src=\"" ++ Markup.escape options.tailwindUrl ++ "\">") =
        true := by
      rw [markless_append, markless_append, markless_escape]
      rfl
    have heq : libraryTag options.tailwindUrl [] = "<" ++ ("script src=\"" ++
        Markup.escape options.tailwindUrl ++ "\">") ++ "</script>" := by
      simp only [libraryTag, List.append_assoc]
      rfl
    exact heq ▸ solid_scriptTag hmarkless
  · exact fun _ _ => rfl

theorem solid_jointText {t : Text} (h : t ∈ jointTexts) : Solid t := by
  have hall : ∀ t ∈ jointTexts, Solid t := by
    unfold Solid
    decide +kernel
  exact hall t h

/-- The place at the end of the head: its end tag, or the start tag of the body. -/
def headEnd? (document : Text) : Option Found :=
  (first? (endTag? "head") document).orElse fun _ => first? (startTagName? "body") document

/-- The place at the end of the body: its last end tag, or that of the root element. -/
def bodyEnd? (document : Text) : Option Found :=
  (last? (endTag? "body") document).orElse fun _ => last? (endTag? "html") document

theorem insertHeadEnd_eq (document fragment : Text) :
    insertHeadEnd document fragment =
      match headEnd? document with
      | some f => insertBefore f fragment
      | none => document ++ "\n" ++ fragment := rfl

theorem insertBodyEnd_eq (document fragment : Text) :
    insertBodyEnd document fragment =
      match bodyEnd? document with
      | some f => insertBefore f fragment
      | none => document ++ "\n" ++ fragment := rfl

/-- The text is split in front of a tag at which fragments are put in. -/
def IsPlace (document : Text) (f : Found) : Prop :=
  document = f.before ++ (f.tag ++ f.after) ∧
    ∃ word ∈ placeWords, (afterFolded? word (f.tag ++ f.after)).isSome = true

theorem eq_some_of_orElse {a : Option Found} {b : Unit → Option Found} {f : Found}
    (h : a.orElse b = some f) : a = some f ∨ b () = some f := by
  cases a with
  | none => exact .inr h
  | some g => exact .inl h

theorem isPlace_of_headEnd? {f : Found} (h : headEnd? document = some f) : IsPlace document f := by
  rcases eq_some_of_orElse h with h | h
  · have hf := finds_first? (endTag?_leavesEnd "head") h
    exact ⟨hf.splits, "</head", by decide, endTag?_startsWith "head" _ _ hf.here⟩
  · have hf := finds_first? (startTagName?_leavesEnd "body") h
    exact ⟨hf.splits, "<body", by decide, startTagName?_startsWith "body" _ _ hf.here⟩

theorem isPlace_of_bodyEnd? {f : Found} (h : bodyEnd? document = some f) : IsPlace document f := by
  rcases eq_some_of_orElse h with h | h
  · have hf := finds_last? (endTag?_leavesEnd "body") h
    exact ⟨hf.splits, "</body", by decide, endTag?_startsWith "body" _ _ hf.here⟩
  · have hf := finds_last? (endTag?_leavesEnd "html") h
    exact ⟨hf.splits, "</html", by decide, endTag?_startsWith "html" _ _ hf.here⟩

theorem SplitAt.allSolid (h : SplitAt parts ps qs) (hsolid : AllSolid parts) :
    AllSolid (ps ++ qs) := by
  intro p hp word hword
  rcases h.mem p hp with hp | ⟨t, rfl⟩
  · exact hsolid p hp word hword
  · trivial

theorem AllSolid.append (hps : AllSolid ps) (hqs : AllSolid qs) : AllSolid (ps ++ qs) :=
  List.forall_mem_append.mpr ⟨hps, hqs⟩

theorem AllSolid.left (h : AllSolid (ps ++ qs)) : AllSolid ps := (List.forall_mem_append.mp h).1

theorem AllSolid.right (h : AllSolid (ps ++ qs)) : AllSolid qs := (List.forall_mem_append.mp h).2

theorem allSolid_own (t : Text) : AllSolid [.own t] :=
  List.forall_mem_singleton.mpr fun _ _ => trivial

theorem allSolid_fragment {t : Text} (h : Solid t) : AllSolid [.fragment t] :=
  List.forall_mem_singleton.mpr h

theorem allSolid_joints {ts : List Text} (h : ∀ t ∈ ts, t ∈ jointTexts) :
    AllSolid (ts.map .joint) := by
  intro p hp
  obtain ⟨t, ht, rfl⟩ := List.mem_map.mp hp
  exact solid_jointText (h t ht)

/-- Where a fragment is put in at the end of the head. -/
def headPlace (document : Text) : Nat :=
  match headEnd? document with
  | some f => f.before.length
  | none => document.length + 1

/-- The parts with a fragment among them, and line feeds beside it. -/
structure Put (document : Text) (fragments : List Text) (fragment : Text) (ps qs : List Part) :
    Prop where
  assembly : Assembly document (fragments ++ [fragment]) (ps ++ .fragment fragment :: qs)
  solid : AllSolid (ps ++ qs)

theorem Put.of_split (left right : List Text) (h : Assembly document fragments parts)
    (hsolid : AllSolid parts) (hsplit : SplitAt parts ps qs) (hfragment : fragment ≠ [])
    (hleft : ∀ t ∈ left, t ∈ jointTexts) (hright : ∀ t ∈ right, t ∈ jointTexts) :
    Put document fragments fragment (ps ++ left.map .joint) (right.map .joint ++ qs) where
  assembly := h.put left right hsplit hfragment hleft hright
  solid := by
    have hparts := hsplit.allSolid hsolid
    exact (hparts.left.append (allSolid_joints hleft)).append
      ((allSolid_joints hright).append hparts.right)

theorem assembly_own (document : Text) : Assembly document [] [.own document] where
  own := List.append_nil document
  fragments := .nil
  joints t ht := by simp at ht

/-- A fragment at the start of the head, in a head of its own, or in front of everything. -/
theorem exists_put_headStart (document : Text) (hfragment : fragment ≠ []) :
    ∃ ps qs, Put document [] fragment ps qs ∧
      textOf (ps ++ .fragment fragment :: qs) = insertHeadStart document fragment := by
  have hown := assembly_own document
  have hsolid := allSolid_own document
  rw [insertHeadStart]
  split
  · next f hf =>
    have hsplits := (finds_first? (startTag?_leavesEnd "head") hf).splits
    rw [← List.append_assoc] at hsplits
    rw [hsplits] at hown hsolid ⊢
    have hput := Put.of_split ["\n"] [] hown hsolid
      (splitAt_own (f.before ++ f.tag) f.after []) hfragment (by decide) (by decide)
    exact ⟨_, _, hput, by simp [textOf, Part.text]⟩
  split
  · next f hf =>
    have hsplits := (finds_first? (startTag?_leavesEnd "html") hf).splits
    rw [← List.append_assoc] at hsplits
    rw [hsplits] at hown hsolid ⊢
    have hput := Put.of_split ["\n<head>\n"] ["\n", "</head>"] hown hsolid
      (splitAt_own (f.before ++ f.tag) f.after []) hfragment (by decide) (by decide)
    refine ⟨_, _, hput, ?_⟩
    simp [textOf, Part.text]
    rfl
  · have hput := Put.of_split [] ["\n"] hown hsolid (splitAt_start _) hfragment (by decide)
      (by decide)
    exact ⟨_, _, hput, by simp [textOf, Part.text]⟩

theorem exists_put_headEnd (h : Assembly document fragments parts) (hsolid : AllSolid parts)
    (hfragment : fragment ≠ []) :
    ∃ ps qs, Put document fragments fragment ps qs ∧
      textOf (ps ++ .fragment fragment :: qs) = insertHeadEnd (textOf parts) fragment ∧
      (textOf ps).length = headPlace (textOf parts) := by
  rw [insertHeadEnd_eq, headPlace]
  cases hf : headEnd? (textOf parts) with
  | none =>
    have hput := Put.of_split ["\n"] [] h hsolid (splitAt_end parts) hfragment (by decide)
      (by decide)
    refine ⟨_, _, hput, by simp [textOf, Part.text], ?_⟩
    simp [textOf, Part.text]
    rfl
  | some f =>
    obtain ⟨hsplits, word, hword, hsome⟩ := isPlace_of_headEnd? hf
    obtain ⟨ps, qs, hps, hqs, hsplit⟩ := exists_splitAt []
      (fun p hp => hsolid p hp word hword) hsplits (by simpa using hsome)
    have hput := Put.of_split [] ["\n"] h hsolid hsplit hfragment (by decide) (by decide)
    refine ⟨_, _, hput, ?_, ?_⟩
    · simp [textOf_append, textOf_cons, hps, hqs, insertBefore, Part.text]
    · simp [hps]

theorem exists_of_append_eq {a b c d : Text} (h : a ++ b = c ++ d) (hle : c.length ≤ a.length) :
    ∃ y, a = c ++ y ∧ d = y ++ b := by
  rcases List.append_eq_append_iff.mp h with ⟨y, rfl, rfl⟩ | ⟨y, rfl, rfl⟩
  · have hy : y = [] := List.eq_nil_of_length_eq_zero (by rw [List.length_append] at hle; omega)
    subst hy
    exact ⟨[], by simp, rfl⟩
  · exact ⟨y, rfl, rfl⟩

/-- Where no place lies inside a fragment, the parts can be split at a place beside it. -/
theorem exists_splitAt_beside {style : Text} {f : Found} (hsolid : AllSolid (ps ++ qs))
    (hplace : IsPlace (textOf (ps ++ .fragment style :: qs)) f)
    (hbeside : f.before.length ≤ (textOf ps).length ∨
      (textOf ps).length + style.length ≤ f.before.length) :
    ∃ xs ys, textOf xs = f.before ∧ textOf ys = f.tag ++ f.after ∧
      SplitAt (ps ++ .fragment style :: qs) xs ys := by
  obtain ⟨hsplits, word, hword, hsome⟩ := hplace
  have htext : textOf (ps ++ .fragment style :: qs) = textOf ps ++ (style ++ textOf qs) := by
    rw [textOf_append, textOf_cons]
    rfl
  rw [htext] at hsplits
  rcases hbeside with hle | hle
  · obtain ⟨y, hy, hrest⟩ := exists_of_append_eq hsplits hle
    obtain ⟨xs, ys, hxs, hys, hsplit⟩ := exists_splitAt (style ++ textOf qs)
      (fun p hp => hsolid.left p hp word hword) hy (hrest ▸ hsome)
    refine ⟨xs, ys ++ .fragment style :: qs, hxs, ?_, hsplit.append_right _⟩
    rw [textOf_append, textOf_cons, hys, hrest]
    rfl
  · rw [← List.append_assoc] at hsplits
    obtain ⟨y, hy, hrest⟩ := exists_of_append_eq hsplits.symm (by rwa [List.length_append])
    obtain ⟨xs, ys, hxs, hys, hsplit⟩ := exists_splitAt []
      (fun p hp => hsolid.right p hp word hword) hrest (by simpa using hsome)
    refine ⟨ps ++ .fragment style :: xs, ys, ?_, hys, ?_⟩
    · rw [textOf_append, textOf_cons, hxs, hy, List.append_assoc]
      rfl
    · rw [List.append_cons, List.append_cons ps _ xs]
      exact hsplit.append_left (ps ++ [.fragment style])

/-- A fragment at the end of the body, where the parts can be split at its place. -/
theorem exists_put_bodyEnd (h : Assembly document fragments parts) (hfragment : fragment ≠ [])
    (hsplit : ∀ f, bodyEnd? (textOf parts) = some f →
      ∃ xs ys, textOf xs = f.before ∧ textOf ys = f.tag ++ f.after ∧ SplitAt parts xs ys) :
    ∃ parts', Assembly document (fragments ++ [fragment]) parts' ∧
      textOf parts' = insertBodyEnd (textOf parts) fragment := by
  rw [insertBodyEnd_eq]
  cases hf : bodyEnd? (textOf parts) with
  | none =>
    have hput := h.put ["\n"] [] (splitAt_end parts) hfragment (by decide) (by decide)
    exact ⟨_, hput, by simp [textOf, Part.text]⟩
  | some f =>
    obtain ⟨xs, ys, hxs, hys, hsplit⟩ := hsplit f hf
    have hput := h.put [] ["\n"] hsplit hfragment (by decide) (by decide)
    exact ⟨_, hput, by simp [textOf_append, textOf_cons, hxs, hys, insertBefore, Part.text]⟩

end SitePreview.Document
