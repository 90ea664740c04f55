import SitePreview.Proofs.Document.Scripts
import SitePreview.Proofs.Document.WholeFragments

/-! Texts of the project stay inside the elements that are written around them. Only a style block
can be broken from outside, by scripts that are put in at an end tag inside it. -/

namespace SitePreview.Document

open Text Markup

/-- An element that is written around texts of the project. -/
structure Host where
  element : Text
  attributes : Text
  inner : Text
deriving DecidableEq

namespace Host

def opening (host : Host) : Text := "<" ++ host.element ++ host.attributes ++ ">"

def closing (host : Host) : Text := "</" ++ host.element ++ ">"

/-- The element around a text. -/
def around (host : Host) (inner : Text) : Text := host.opening ++ (inner ++ host.closing)

/-- The element stands in the document around its text, perhaps with a fragment put in there, and
nothing between its tags is the start of another end tag of it. -/
def IntactWith (fragment document : Text) (host : Host) : Prop :=
  ∃ inner, (inner = host.inner ∨ ∃ x y, host.inner = x ++ y ∧ inner = x ++ fragment ++ "\n" ++ y) ∧
    StaysInside host.element inner ∧ host.around inner <:+: document

end Host

/-- The element around lines of texts, if there are any. -/
def blockHosts (element : Text) (texts : List Text) : List Host :=
  if texts.isEmpty then [] else [⟨element, [], "\n" ++ ofLines texts ++ "\n"⟩]

/-- The element of a style block, if there is one. -/
def styleHosts (baseline : Bool) (styles : List Text) : List Host :=
  blockHosts "style"
    ((if baseline then [baselineCss] else []) ++ styles.map (escapeEndTags "style"))

/-- The element of a script block, if there is one. -/
def scriptHosts (scripts : List Text) : List Host :=
  blockHosts "script" (scripts.map (escapeEndTags "script"))

/-- The element around the sources of all components. -/
def bundleHost (files : FileSet) (options : PreviewOptions) : Host where
  element := "script"
  attributes :=
    let presets : Text := if hasTyped files then "tsx,react" else "react"
    " type=\"text/babel\" data-presets=\"" ++ presets ++ "\""
  inner := "\n" ++ join "\n\n" [hookBindings, hashRouter, projectBlock files options] ++ "\n"

/-- The elements that a document has around texts of the project. -/
def hosts (files : FileSet) (mode : Option RenderMode) (options : PreviewOptions) : List Host :=
  let styles := contentsOfKind files .style
  let scripts := contentsOfKind files .script
  match mode.getD files.renderMode with
  | .passthrough => styleHosts files.fullDocument?.isNone styles ++ scriptHosts scripts
  | .component => styleHosts true styles ++ [bundleHost files options]
  | .plain => styleHosts true styles ++ scriptHosts scripts

variable {files : FileSet} {options : PreviewOptions} {path : Text} {mode : Option RenderMode}
  {t title fragment document : Text} {parts ts : List Text} {host : Host}

theorem infix_join {separator : Text} (h : t ∈ ts) : t <:+: join separator ts := by
  induction ts with
  | nil => cases h
  | cons u us ih =>
    cases us with
    | nil =>
      rw [List.mem_singleton.mp h]
      exact List.infix_rfl
    | cons v vs =>
      rw [join]
      rcases List.mem_cons.mp h with rfl | h
      · exact (List.prefix_append t _).isInfix.trans (List.prefix_append _ _).isInfix
      · exact (ih h).trans (List.suffix_append _ _).isInfix

theorem infix_head (h : t ∈ parts) (hne : t ≠ []) : t <:+: head title parts := by
  have hmem : t ∈ headStart title ++ parts.filter (· ≠ []) :=
    List.mem_append_right _ (List.mem_filter.mpr ⟨h, decide_eq_true hne⟩)
  exact (infix_join hmem).trans (List.prefix_append _ _).isInfix

theorem infix_shell_of_head {head : Text} (h : t <:+: head) : t <:+: shell head parts := by
  obtain ⟨before, after, rfl⟩ := h
  exact ⟨"<!DOCTYPE html>\n<html lang=\"en\">\n" ++ before, after ++ "\n<body>\n" ++
    ofLines (parts.filter (· ≠ [])) ++ "\n</body>\n</html>\n", by simp [shell]⟩

theorem infix_shell_of_mem {head : Text} (h : t ∈ parts) (hne : t ≠ []) :
    t <:+: shell head parts := by
  have hmem : t ∈ parts.filter (· ≠ []) := List.mem_filter.mpr ⟨h, decide_eq_true hne⟩
  exact (infix_join hmem).trans ((List.suffix_append _ _).isInfix.trans
    (List.prefix_append _ _).isInfix)

theorem Host.around_ne_nil (host : Host) (inner : Text) : host.around inner ≠ [] :=
  List.cons_ne_nil (CodePoint.ofChar '<') _

theorem styleBlock_eq (baseline : Bool) (styles : List Text) :
    styleBlock baseline styles =
      (styleHosts baseline styles).flatMap fun host => host.around host.inner := by
  rw [styleBlock, styleHosts]
  generalize (if baseline then [baselineCss] else []) ++ styles.map (escapeEndTags "style") = ts
  cases ts with
  | nil => rfl
  | cons t ts =>
    simp only [blockHosts, List.isEmpty_cons, Bool.false_eq_true, if_false, List.flatMap_singleton,
      Host.around, Host.opening, Host.closing,
      List.append_assoc]
    rfl

theorem scriptBlock_eq (scripts : List Text) :
    scriptBlock scripts = (scriptHosts scripts).flatMap fun host => host.around host.inner := by
  rw [scriptBlock, scriptHosts]
  cases scripts with
  | nil => rfl
  | cons t ts =>
    simp only [blockHosts, List.map_cons, List.isEmpty_cons, Bool.false_eq_true, if_false,
      List.flatMap_singleton, Host.around, Host.opening, Host.closing,
      List.append_assoc]
    rfl

theorem eq_singleton_of_blockHosts {element : Text} (h : host ∈ blockHosts element ts) :
    blockHosts element ts = [host] := by
  rw [blockHosts] at h ⊢
  split at h
  · cases h
  · next hne => rw [if_neg hne, List.mem_singleton.mp h]

theorem tags_of_blockHosts {element : Text} (h : host ∈ blockHosts element ts) :
    host.element = element ∧ host.opening = "<" ++ element ++ ">" ∧
      host.closing = "</" ++ element ++ ">" := by
  rw [blockHosts] at h
  split at h
  · cases h
  · rw [List.mem_singleton.mp h]
    exact ⟨rfl, by simp [Host.opening], rfl⟩

theorem around_of_styleHosts {baseline : Bool} {styles : List Text}
    (h : host ∈ styleHosts baseline styles) :
    host.around host.inner = styleBlock baseline styles := by
  rw [styleBlock_eq, styleHosts, eq_singleton_of_blockHosts h, List.flatMap_singleton]

theorem around_of_scriptHosts {scripts : List Text} (h : host ∈ scriptHosts scripts) :
    host.around host.inner = scriptBlock scripts := by
  rw [scriptBlock_eq, scriptHosts, eq_singleton_of_blockHosts h, List.flatMap_singleton]

theorem staysInside_lines {element : Text} (h : StaysInside element t)
    (hname : IsLowerName element) : StaysInside element ("\n" ++ t ++ "\n") :=
  (h.markless_append rfl).append_cons (staysInside_nil element) hname isOutside_lineFeed

theorem staysInside_of_blockHosts {element : Text} (hname : IsLowerName element)
    (hts : ∀ t ∈ ts, StaysInside element t) (h : host ∈ blockHosts element ts) :
    StaysInside host.element host.inner := by
  rw [blockHosts] at h
  split at h
  · cases h
  · rw [List.mem_singleton.mp h]
    exact staysInside_lines (staysInside_ofLines hts hname) hname

theorem staysInside_of_styleHosts {baseline : Bool} {styles : List Text}
    (h : host ∈ styleHosts baseline styles) : StaysInside host.element host.inner := by
  refine staysInside_of_blockHosts isLowerName_style ?_ h
  rw [List.forall_mem_append, List.forall_mem_map]
  refine ⟨fun t ht => ?_, fun t _ => staysInside_escapeEndTags isLowerName_style t⟩
  cases baseline with
  | false => cases ht
  | true =>
    rw [if_pos rfl, List.mem_singleton] at ht
    exact ht ▸ staysInside_of_endTagless (endTagless_of_markless markless_baselineCss)

theorem staysInside_of_scriptHosts {scripts : List Text} (h : host ∈ scriptHosts scripts) :
    StaysInside host.element host.inner := by
  refine staysInside_of_blockHosts isLowerName_script ?_ h
  rw [List.forall_mem_map]
  exact fun t _ => staysInside_escapeEndTags isLowerName_script t

theorem isOutside_blankLine : ∀ c ∈ ("\n\n" : Text), IsOutside c :=
  List.forall_mem_cons.mpr ⟨isOutside_lineFeed, List.forall_mem_singleton.mpr isOutside_lineFeed⟩

theorem staysInside_projectBlock (files : FileSet)
    (hid : StaysInside "script" options.mountElementId) :
    StaysInside "script" (projectBlock files options) := by
  have hbundle := (staysInside_escapeEndTags isLowerName_script (bundle files)).markless_append
    (a := "\x7b\n") rfl
  have hharness := staysInside_mountHarness options.rootCandidates hid isLowerName_script
  have hboth := staysInside_join (List.cons_ne_nil _ _) isOutside_blankLine
    (List.forall_mem_cons.mpr ⟨hbundle, List.forall_mem_singleton.mpr hharness⟩) isLowerName_script
  exact hboth.append_cons (staysInside_of_endTagless (t := "\x7d") rfl) isLowerName_script
    isOutside_lineFeed

theorem staysInside_bundleHost (files : FileSet)
    (hid : StaysInside "script" options.mountElementId) :
    StaysInside (bundleHost files options).element (bundleHost files options).inner := by
  refine staysInside_lines (staysInside_join (List.cons_ne_nil _ _) isOutside_blankLine ?_
    isLowerName_script) isLowerName_script
  rw [List.forall_mem_cons, List.forall_mem_cons, List.forall_mem_singleton]
  exact ⟨staysInside_of_endTagless (endTagless_of_markless markless_hookBindings),
    staysInside_of_endTagless endTagless_hashRouter, staysInside_projectBlock files hid⟩

/-- The text of every element stays inside it when it is written. -/
theorem staysInside_of_hosts (hid : StaysInside "script" options.mountElementId)
    (h : host ∈ hosts files mode options) : StaysInside host.element host.inner := by
  rw [hosts] at h
  split at h
  · exact (List.mem_append.mp h).elim staysInside_of_styleHosts staysInside_of_scriptHosts
  · rcases List.mem_append.mp h with h | h
    · exact staysInside_of_styleHosts h
    · exact List.mem_singleton.mp h ▸ staysInside_bundleHost files hid
  · exact (List.mem_append.mp h).elim staysInside_of_styleHosts staysInside_of_scriptHosts

theorem infix_shell_of_styleHosts {baseline : Bool} {styles body : List Text}
    (h : host ∈ styleHosts baseline styles) (hparts : styleBlock baseline styles ∈ parts) :
    host.around host.inner <:+: shell (head title parts) body := by
  have hne := host.around_ne_nil host.inner
  rw [around_of_styleHosts h] at hne ⊢
  exact infix_shell_of_head (infix_head hparts hne)

theorem infix_plain
    (h : host ∈ styleHosts true (contentsOfKind files .style) ++
      scriptHosts (contentsOfKind files .script)) :
    host.around host.inner <:+: plain files options := by
  rcases List.mem_append.mp h with h | h
  · exact infix_shell_of_styleHosts h (by simp)
  · have hne := host.around_ne_nil host.inner
    rw [around_of_scriptHosts h] at hne ⊢
    exact infix_shell_of_mem (by simp) hne

theorem infix_component
    (h : host ∈ styleHosts true (contentsOfKind files .style) ++ [bundleHost files options]) :
    host.around host.inner <:+: component files options := by
  rcases List.mem_append.mp h with h | h
  · exact infix_shell_of_styleHosts h (by simp)
  · have hne := host.around_ne_nil host.inner
    rw [List.mem_singleton.mp h] at hne ⊢
    refine infix_shell_of_mem (List.mem_cons_of_mem _ (List.mem_singleton.mpr ?_)) hne
    simp only [Host.around, Host.opening, Host.closing, bundleHost, List.append_assoc]
    rfl

/-- A text that was put in at the end of the head splits the document at that place. -/
theorem exists_insertHeadEnd (document fragment : Text) :
    ∃ before after, insertHeadEnd document fragment = before ++ fragment ++ after ∧
      before.length = headPlace document := by
  rw [insertHeadEnd_eq, headPlace]
  cases headEnd? document with
  | none => exact ⟨document ++ "\n", [], by simp, by simp; rfl⟩
  | some f => exact ⟨f.before, "\n" ++ f.tag ++ f.after, by simp [insertBefore], rfl⟩

theorem infix_insertBodyEnd (document fragment : Text) :
    fragment <:+: insertBodyEnd document fragment := by
  rw [insertBodyEnd_eq]
  cases bodyEnd? document with
  | none => exact (List.suffix_append _ _).isInfix
  | some f => exact ⟨f.before, "\n" ++ f.tag ++ f.after, by simp [insertBefore]⟩

/-- A word that starts inside an element, and not in its tags, starts in the text between them. -/
theorem exists_inner_of_place {word opening inner closing x y after : Text}
    (hopening : freeOf word opening.tail = true) (hclosing : freeOf word closing = true)
    (h : opening ++ (inner ++ closing) = x ++ y) (hx : x ≠ []) (hy : y ≠ [])
    (hword : (afterFolded? word (y ++ after)).isSome = true) :
    ∃ x' y', inner = x' ++ y' ∧ x = opening ++ x' ∧ y = y' ++ closing := by
  have hnot {z : Text} (hz : freeOf word z = true) (hne : z ≠ []) (more : Text) :
      z ++ more ≠ y ++ after := by
    intro heq
    rw [← heq, afterFolded?_of_freeOf hz hne] at hword
    cases hword
  -- the place is behind the opening tag, or in it
  rcases List.append_eq_append_iff.mp h with ⟨x', rfl, hinner⟩ | ⟨z, rfl, rfl⟩
  · rcases List.append_eq_append_iff.mp hinner with ⟨z, rfl, rfl⟩ | ⟨y', rfl, rfl⟩
    · exact absurd rfl (hnot (freeOf_right hclosing) hy after)
    · exact ⟨x', y', rfl, rfl, rfl⟩
  by_cases hz : z = []
  · subst hz
    exact ⟨[], inner, rfl, by simp, rfl⟩
  obtain ⟨c, x, rfl⟩ := List.exists_cons_of_ne_nil hx
  have hrest := hnot (freeOf_right hopening) hz (inner ++ closing ++ after)
  exact absurd (List.append_assoc ..).symm hrest

/-- A text in a document stands at one side of a place, or around it. -/
theorem infix_or_around {before block after front rest : Text}
    (h : before ++ (block ++ after) = front ++ rest) :
    (block <:+: front ∨ block <:+: rest) ∨ ∃ x y, x ≠ [] ∧ y ≠ [] ∧
      block = x ++ y ∧ front = before ++ x ∧ rest = y ++ after := by
  rcases List.append_eq_append_iff.mp h with ⟨x, rfl, hx⟩ | ⟨z, rfl, rfl⟩
  · rcases List.append_eq_append_iff.mp hx with ⟨z, rfl, rfl⟩ | ⟨y, rfl, rfl⟩
    · exact .inl (.inl ⟨before, z, by simp⟩)
    by_cases hxnil : x = []
    · subst hxnil
      exact .inl (.inr (List.prefix_append y after).isInfix)
    by_cases hynil : y = []
    · subst hynil
      exact .inl (.inl ⟨before, [], by simp⟩)
    · exact .inr ⟨x, y, hxnil, hynil, rfl, rfl, rfl⟩
  · exact .inl (.inr ⟨z, after, by simp⟩)

theorem insertBefore_eq (f : Found) (fragment : Text) :
    insertBefore f fragment = f.before ++ (fragment ++ ("\n" ++ (f.tag ++ f.after))) := by
  simp [insertBefore]

theorem infix_insertBefore {f : Found} (h : t <:+: f.before ∨ t <:+: f.tag ++ f.after)
    (fragment : Text) : t <:+: insertBefore f fragment := by
  rw [insertBefore_eq]
  rcases h with h | h
  · exact h.trans (List.prefix_append _ _).isInfix
  · exact h.trans (((List.suffix_append _ _).trans (List.suffix_append _ _)).trans
      (List.suffix_append _ _)).isInfix

theorem head?_projectScripts (h : projectScripts files ≠ []) :
    (projectScripts files).head? = some ('<' : CodePoint) := by
  rw [projectScripts, scriptBlock] at h ⊢
  split at h
  · exact absurd rfl h
  · next hne =>
    rw [if_neg hne]
    rfl

/-- Scripts are no end of a style if no script file holds one. -/
theorem staysInside_projectScripts
    (h : ∀ t ∈ contentsOfKind files .script, StaysInside "style" t) :
    StaysInside "style" (projectScripts files) := by
  rw [projectScripts, scriptBlock]
  split
  · exact staysInside_nil _
  · have hlines : StaysInside "style"
        (ofLines ((contentsOfKind files .script).map (escapeEndTags "script"))) := by
      refine staysInside_ofLines ?_ isLowerName_style
      rw [List.forall_mem_map]
      exact fun t ht => (h t ht).escapeEndTags isLowerName_style "script"
    have hopening : StaysInside "style" "<script>" := staysInside_of_endTagless rfl
    have hclosing : StaysInside "style" "</script>" := by decide +kernel
    exact (hopening.append_cons hlines isLowerName_style isOutside_lineFeed).append_cons hclosing
      isLowerName_style isOutside_lineFeed

/-- An element is left intact by a fragment that is put in at a place inside it and is no end of
it. -/
theorem Host.intactWith_of_place {word x y : Text} (before after : Text)
    (hopening : freeOf word host.opening.tail = true) (hclosing : freeOf word host.closing = true)
    (hname : IsLowerName host.element) (hinner : StaysInside host.element host.inner)
    (hfragment : StaysInside host.element fragment)
    (hhead : fragment.head? = some ('<' : CodePoint))
    (hxy : host.around host.inner = x ++ y) (hx : x ≠ []) (hy : y ≠ [])
    (hsome : (afterFolded? word (y ++ after)).isSome = true) :
    host.IntactWith fragment (before ++ x ++ (fragment ++ ("\n" ++ (y ++ after)))) := by
  obtain ⟨x', y', hsplit, rfl, rfl⟩ := exists_inner_of_place hopening hclosing hxy hx hy hsome
  refine ⟨x' ++ fragment ++ "\n" ++ y', .inr ⟨x', y', hsplit, rfl⟩, ?_, before, after, ?_⟩
  · rw [hsplit] at hinner
    have hx' := hinner.of_infix (List.prefix_append x' y').isInfix
    have hy' := hinner.of_infix (List.suffix_append x' y').isInfix
    obtain ⟨t, rfl⟩ := List.head?_eq_some_iff.mp hhead
    rw [List.append_assoc, List.append_assoc]
    exact hx'.append_mark (hfragment.append_cons hy' hname isOutside_lineFeed) hname
  · simp [Host.around]

/-- An element of which no place splits the tags is left intact by a fragment that is put in at a
place, beside it or in its text. -/
theorem Host.intactWith_insertBefore {before after : Text} {f : Found}
    (htags : ∀ word ∈ placeWords,
      freeOf word host.opening.tail = true ∧ freeOf word host.closing = true)
    (hname : IsLowerName host.element) (hinner : StaysInside host.element host.inner)
    (hplace : IsPlace (before ++ (host.around host.inner ++ after)) f)
    (hhead : fragment.head? = some ('<' : CodePoint))
    (hfragment : before.length < f.before.length →
      f.before.length < before.length + (host.around host.inner).length →
      StaysInside host.element fragment) :
    host.IntactWith fragment (insertBefore f fragment) := by
  obtain ⟨hsplits, word, hword, hstarts⟩ := hplace
  rcases infix_or_around hsplits with hbeside | ⟨x, y, hx, hy, hxy, hbefore, hrest⟩
  · exact ⟨host.inner, .inl rfl, hinner, infix_insertBefore hbeside _⟩
  have hstays : StaysInside host.element fragment := by
    have hxpos := List.length_pos_of_ne_nil hx
    have hypos := List.length_pos_of_ne_nil hy
    rw [hbefore, hxy, List.length_append, List.length_append] at hfragment
    exact hfragment (by omega) (by omega)
  rw [insertBefore_eq, hbefore, hrest]
  exact intactWith_of_place before after (htags word hword).1 (htags word hword).2 hname hinner
    hstays hhead hxy hx hy (hrest ▸ hstarts)

theorem intactWith_styleHosts (hdocument : files.fullDocument? = some path)
    (hscripts : scriptsOutsideStyles files options path = true ∨
      ∀ t ∈ contentsOfKind files .script, StaysInside "style" t)
    (h : host ∈ styleHosts false (contentsOfKind files .style)) :
    host.IntactWith (projectScripts files) (passthrough files options) := by
  have hinner := staysInside_of_styleHosts h
  have haround : host.around host.inner = projectStyles files := around_of_styleHosts h
  obtain ⟨before, after, hput, hlength⟩ :=
    exists_insertHeadEnd (framed files options path) (projectStyles files)
  have hstyled : styled files options path = before ++ (host.around host.inner ++ after) := by
    rw [styled, insertPart, if_neg (haround ▸ host.around_ne_nil _), hput, haround,
      List.append_assoc]
  have hwhole : host.around host.inner <:+: styled files options path :=
    ⟨before, after, by rw [hstyled, List.append_assoc]⟩
  rw [passthrough_eq hdocument, insertPart]
  split
  · exact ⟨host.inner, .inl rfl, hinner, hwhole⟩
  next hsome =>
  rw [insertBodyEnd_eq]
  cases hf : bodyEnd? (styled files options path) with
  | none =>
    have hbehind := (List.prefix_append (styled files options path) "\n").trans
      (List.prefix_append _ (projectScripts files))
    exact ⟨host.inner, .inl rfl, hinner, hwhole.trans hbehind.isInfix⟩
  | some f =>
    obtain ⟨helement, hopening, hclosing⟩ := tags_of_blockHosts h
    have htags : ∀ word ∈ placeWords,
        freeOf word host.opening.tail = true ∧ freeOf word host.closing = true := by
      rw [hopening, hclosing]
      decide +kernel
    refine Host.intactWith_insertBefore htags (helement ▸ isLowerName_style) hinner
      (hstyled ▸ isPlace_of_bodyEnd? hf) (head?_projectScripts hsome) fun hlow hhigh => ?_
    rw [helement]
    refine hscripts.elim (fun houtside => ?_) staysInside_projectScripts
    -- the place is inside the styles, so the scripts are not outside
    rw [scriptsOutsideStyles, hf, Option.all_some, ← hlength, ← haround] at houtside
    simp only [hsome, decide_false, Bool.false_or, Bool.or_eq_true, decide_eq_true_eq] at houtside
    omega

theorem infix_scriptHosts (hdocument : files.fullDocument? = some path)
    (h : host ∈ scriptHosts (contentsOfKind files .script)) :
    host.around host.inner <:+: passthrough files options := by
  have haround : host.around host.inner = projectScripts files := around_of_scriptHosts h
  rw [passthrough_eq hdocument, insertPart, if_neg (haround ▸ host.around_ne_nil _), haround]
  exact infix_insertBodyEnd _ _

/-- Whatever the files hold, the elements around their texts are closed by their own end tags only.
The name of the mount element is the one text that is not made safe. Scripts that are put in inside
a style block must not hold an end of it. -/
theorem hosts_intact (hid : StaysInside "script" options.mountElementId)
    (hscripts : mode.getD files.renderMode = .passthrough →
      ∀ path, files.fullDocument? = some path →
      scriptsOutsideStyles files options path = true ∨
        ∀ t ∈ contentsOfKind files .script, StaysInside "style" t) :
    ∀ host ∈ hosts files mode options,
      host.IntactWith (projectScripts files) (render files mode options) := by
  intro host h
  have hinner := staysInside_of_hosts hid h
  have hwhole {document : Text} (h : host.around host.inner <:+: document) :
      host.IntactWith (projectScripts files) document := ⟨host.inner, .inl rfl, hinner, h⟩
  rw [hosts] at h
  rw [render]
  generalize mode.getD files.renderMode = rendered at h hscripts ⊢
  cases rendered with
  | passthrough =>
    dsimp only at h ⊢
    cases hdocument : files.fullDocument? with
    | none =>
      rw [hdocument] at h
      rw [passthrough, hdocument]
      exact hwhole (infix_plain h)
    | some path =>
      rw [hdocument] at h
      rcases List.mem_append.mp h with h | h
      · exact intactWith_styleHosts hdocument (hscripts rfl path hdocument) h
      · exact hwhole (infix_scriptHosts hdocument h)
  | component => exact hwhole (infix_component h)
  | plain => exact hwhole (infix_plain h)

/-- The script is put in inside the style, and holds an end tag of its own element only. -/
def wovenFiles : FileSet := .ofList [("index.html", "<!DOCTYPE html>hi"),
  ("a.css", "/* </body> </style> */"), ("b.js", "var s = '</script>';")]

theorem hosts_intact_wovenFiles :
    StaysInside "script" ({} : PreviewOptions).mountElementId ∧
      (∀ t ∈ contentsOfKind wovenFiles .script, StaysInside "style" t) ∧
      ∀ host ∈ hosts wovenFiles (some .passthrough) {},
        host.IntactWith (projectScripts wovenFiles) (render wovenFiles (some .passthrough) {}) := by
  have hid : StaysInside "script" ({} : PreviewOptions).mountElementId := by decide +kernel
  have hscripts : ∀ t ∈ contentsOfKind wovenFiles .script, StaysInside "style" t := by
    decide +kernel
  exact ⟨hid, hscripts, hosts_intact hid fun _ _ _ => .inr hscripts⟩

/-- A script that holds an end tag of a style closes the style block in which it is put in. -/
theorem style_broken_strayFiles :
    ¬ ∀ host ∈ hosts strayFiles (some .passthrough) {},
      host.IntactWith (projectScripts strayFiles) (render strayFiles (some .passthrough) {}) := by
  intro h
  let host : Host := ⟨"style", [], "\n/* </body> */\n"⟩
  have hmem : host ∈ hosts strayFiles (some .passthrough) {} := by decide +kernel
  have haround : host.around host.inner = projectStyles strayFiles := by decide +kernel
  obtain ⟨inner, hinner | ⟨x, y, -, rfl⟩, hstays, hinfix⟩ := h host hmem
  · rw [hinner, haround] at hinfix
    exact not_infix_strayFiles hinfix
  · have hbroken : ¬ StaysInside "style" (projectScripts strayFiles) := by decide +kernel
    exact hbroken (hstays.of_infix ⟨x, "\n" ++ y, by simp⟩)

end SitePreview.Document
