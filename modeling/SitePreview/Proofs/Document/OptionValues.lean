import SitePreview.Document.Render
import SitePreview.Json.Parser
import SitePreview.Proofs.Document.Inlining
import SitePreview.Proofs.Markup.TagReading

/-! The values of options in preview documents. A component or plain document is a template, which
the files and the mode determine, with the values put in: as attributes and as the title, where they
are written with character references and read back by any reader of these, and in the script that
mounts the root component. That script holds an end tag of its element exactly if the name of the
mount element does, and the name of a candidate stands on one line in it unless a line feed ends
the name. -/

namespace SitePreview

open CodePoint Text

namespace Markup

/-- What character references stand for: names, with the semicolon where one belongs to them,
and numbers. -/
structure References where
  named : Text → Option Text
  numbered : Nat → Text
  amp : named "amp;" = some "&"
  lt : named "lt;" = some "<"
  gt : named "gt;" = some ">"
  quot : named "quot;" = some "\""
  apostrophe : numbered 0x27 = "'"

namespace References

variable (references : References) {a s t : Text}

/-- A code point that may stand in the name of a reference. -/
def isPoint (c : CodePoint) : Bool := !("\t\n\x0c <&#;" : Text).contains c

/-- How many code points of a name are looked at. -/
def maxName : Nat := 32

/-- What the longest start of a name, of at most `n` code points, stands for, and its length. -/
def longest? (name : Text) : Nat → Option (Text × Nat)
  | 0 => none
  | n + 1 =>
    match references.named (name.take (n + 1)) with
    | some t => some (t, n + 1)
    | none => longest? name n

/-- The reference by name, if it stands for something, and how long it is. -/
def byName? (s : Text) : Option (Text × Nat) :=
  let run := (s.takeWhile isPoint).take maxName
  let closed := run ≠ [] ∧ (s.drop run.length).head? = some (ofChar ';')
  let name := if closed then run ++ ";" else run
  references.longest? name name.length

/-- The reference by number in the base, and how long it is. -/
def byNumber? (base : Nat) (s : Text) : Option (Text × Nat) :=
  let digit? (c : CodePoint) : Option Nat := (Json.hexValue? c).filter (· < base)
  let digits := s.takeWhile fun c => (digit? c).isSome
  let semicolon := if (s.drop digits.length).head? = some (ofChar ';') then 1 else 0
  if digits = [] then none
  else
    some (references.numbered ((digits.filterMap digit?).foldl (fun n d => base * n + d) 0),
      digits.length + semicolon)

/-- The reference whose mark stands in front of the text, and how long it is. -/
def read? (s : Text) : Option (Text × Nat) :=
  match after? "#" s with
  | none => references.byName? s
  | some s =>
    match (after? "x" s).orElse fun _ => after? "X" s with
    | some s => (references.byNumber? 16 s).map (Prod.map id (· + 2))
    | none => (references.byNumber? 10 s).map (Prod.map id (· + 1))

/-- The text behind its first `n` code points with what references stand for in their place. -/
def decodeBehind : Nat → Text → Text
  | _, [] => []
  | n + 1, _ :: s => decodeBehind n s
  | 0, c :: s =>
    if c = ofChar '&' then
      match references.read? s with
      | some (t, n) => t ++ decodeBehind n s
      | none => c :: decodeBehind 0 s
    else c :: decodeBehind 0 s

/-- The text with what references stand for in their place. -/
def decode (t : Text) : Text := references.decodeBehind 0 t

theorem decodeBehind_append (a s : Text) :
    references.decodeBehind a.length (a ++ s) = references.decode s := by
  induction a with
  | nil => rfl
  | cons c a ih => exact ih

theorem decode_reference (h : references.read? (a ++ s) = some (t, a.length)) :
    references.decode (ofChar '&' :: (a ++ s)) = t ++ references.decode s := by
  rw [decode, decodeBehind, if_pos rfl, h]
  exact congrArg (t ++ ·) (references.decodeBehind_append a s)

/-- A name that stands for something is its own longest start. -/
theorem longest?_length (h : references.named a = some t) (hne : a ≠ []) :
    references.longest? a a.length = some (t, a.length) := by
  cases a with
  | nil => exact absurd rfl hne
  | cons c a => rw [List.length_cons, longest?, ← List.length_cons, List.take_length, h]

/-- The references that escapes are made of are read as the marks they stand for. -/
theorem decode_escapePoint (c : CodePoint) (s : Text) :
    references.decode (escapePoint c ++ s) = c :: references.decode s := by
  have hname {name t : Text} (hnamed : references.named name = some t) (hne : name ≠ [])
      (hread : references.read? (name ++ s) = references.longest? name name.length) :
      references.decode (ofChar '&' :: (name ++ s)) = t ++ references.decode s :=
    references.decode_reference (hread.trans (references.longest?_length hnamed hne))
  unfold escapePoint
  split
  · next h =>
    subst h
    exact hname references.amp (by decide) rfl
  split
  · next h =>
    subst h
    exact hname references.lt (by decide) rfl
  split
  · next h =>
    subst h
    exact hname references.gt (by decide) rfl
  split
  · next h =>
    subst h
    exact hname references.quot (by decide) rfl
  split
  · next h =>
    subst h
    have hread : references.read? ("#x27;" ++ s) =
        some (references.numbered 0x27, ("#x27;" : Text).length) := rfl
    rw [references.apostrophe] at hread
    exact references.decode_reference hread
  · next hamp _ _ _ _ =>
    rw [decode, List.singleton_append, decodeBehind, if_neg hamp]
    rfl

theorem decode_escape (t : Text) : references.decode (escape t) = t := by
  induction t with
  | nil => rfl
  | cons c t ih =>
    rw [escape, List.flatMap_cons, decode_escapePoint]
    exact congrArg (c :: ·) ih

/-- The marks by name, and code points by number. -/
def ofMarks : References where
  named name := ([("amp;", "&"), ("lt;", "<"), ("gt;", ">"), ("quot;", "\"")] :
    List (Text × Text)).lookup name
  numbered n := (CodePoint.ofNat? n).toList
  amp := by decide
  lt := by decide
  gt := by decide
  quot := by decide
  apostrophe := by decide

example : ofMarks.decode "&amp;lt; &#39 &#X27;&x;" = "&lt; ' '&x;" := by decide +kernel

end References

/-- The written text holds no mark of a tag and no quote, and is read as the value. -/
structure Written (references : References) (value written : Text) : Prop where
  plain : ∀ c ∈ written, c ∉ marks
  decoded : references.decode written = value

theorem written_escape (references : References) (t : Text) :
    Written references t (escape t) where
  plain := forall_mem_escape t
  decoded := references.decode_escape t

end Markup

namespace Json

open Markup

variable {element t : Text} {c : CodePoint}

theorem escape_of_isAsciiLetter (h : c.isAsciiLetter = true) : escape true c = [c] := by
  have hne {d : CodePoint} (hd : d.isAsciiLetter = false) : c ≠ d := by
    rintro rfl
    rw [h] at hd
    cases hd
  rw [escape, if_neg (hne (by decide)), if_neg (hne (by decide)), if_neg (hne (by decide)),
    if_neg (hne (by decide)), if_neg (hne (by decide))]
  simp only [isAsciiLetter, isAsciiUpper, isAsciiLower, Bool.or_eq_true, Bool.and_eq_true,
    decide_eq_true_eq] at h
  rw [if_neg (by omega), if_neg (by omega), if_neg]
  simp only [Bool.true_and, Bool.or_eq_true, decide_eq_true_eq]
  omega

/-- Nothing in an end tag is escaped in a quoted text. -/
theorem escape_of_mem_endMark (hname : IsLowerName element)
    (h : c.toAsciiLower ∈ endMark element) : escape true c = [c] := by
  rcases List.mem_cons.mp h with h | h
  · rw [eq_of_toAsciiLower_eq (by decide) h]
    rfl
  rcases List.mem_cons.mp h with h | h
  · rw [eq_of_toAsciiLower_eq (by decide) h]
    rfl
  · exact escape_of_isAsciiLetter (isAsciiLetter_of_toAsciiLower (hname _ h))

/-- An end tag in a text stands in the quoted text as well. -/
theorem staysInside_of_quote (hname : IsLowerName element)
    (h : StaysInside element (quote true t)) : StaysInside element t := by
  rintro ⟨before, after, hsplit⟩
  obtain ⟨front, b, rfl, hfront, rfl⟩ := List.map_eq_append_iff.mp hsplit.symm
  obtain ⟨a, tag, rfl, rfl, htag⟩ := List.map_eq_append_iff.mp hfront
  have hescaped : tag.flatMap (escape true) = tag := by
    have hsingle : ∀ c ∈ tag, escape true c = [c] := fun c hc =>
      escape_of_mem_endMark hname (htag ▸ List.mem_map_of_mem hc)
    rw [List.flatMap_congr hsingle, List.flatMap_singleton']
  refine h (htag ▸ List.IsInfix.map CodePoint.toAsciiLower ?_)
  rw [quote, List.flatMap_append, List.flatMap_append, hescaped]
  exact ⟨"\"" ++ a.flatMap (escape true), b.flatMap (escape true) ++ "\"", by simp⟩

end Json

namespace Document

open Markup

/-- An option whose value is written into the markup of a document. -/
inductive Slot
  | title
  | tailwindUrl
  | reactUrl
  | reactDomUrl
  | babelUrl
  | mountElementId

def Slot.value (options : PreviewOptions) : Slot → Text
  | title => options.title
  | tailwindUrl => options.tailwindUrl
  | reactUrl => options.reactUrl
  | reactDomUrl => options.reactDomUrl
  | babelUrl => options.babelUrl
  | mountElementId => options.mountElementId

/-- The value of an option as it is written into the markup. -/
def Slot.written (options : PreviewOptions) (slot : Slot) : Text :=
  Markup.escape (slot.value options)

/-- The script that mounts the root component. -/
def harness (options : PreviewOptions) : Text :=
  mountHarness options.rootCandidates options.mountElementId

/-- A piece of a template: a text that no option changes, an attribute or an element with the value
of an option, and the script that mounts the root component. -/
inductive Piece
  | fixed (t : Text)
  | attr (name : Text) (slot : Slot)
  | element (name : Text) (slot : Slot)
  | harness

namespace Piece

def text (options : PreviewOptions) : Piece → Text
  | fixed t => t
  | attr name slot => " " ++ name ++ "=\"" ++ slot.written options ++ "\""
  | element name slot =>
    "<" ++ name ++ ">" ++ slot.written options ++ "</" ++ name ++ ">"
  | harness => Document.harness options

/-- The piece is a text, an empty one. -/
def isEmpty : Piece → Bool
  | fixed t => t.isEmpty
  | _ => false

end Piece

/-- The template with the values of the options put in. -/
def fill (options : PreviewOptions) (pieces : List Piece) : Text :=
  pieces.flatMap (Piece.text options)

namespace Template

/-- The parts as lines, empty ones left out. -/
def lines (parts : List (List Piece)) : List Piece :=
  ((parts.filter fun part => !part.all Piece.isEmpty).intersperse [.fixed "\n"]).flatten

def library (slot : Slot) (attributes : Text) : List Piece :=
  [.fixed "<script", .attr "src" slot, .fixed (attributes ++ "></script>")]

def framework (files : FileSet) : List Piece :=
  if files.usesUtilityClasses then library .tailwindUrl [] else []

def mountElement : List Piece :=
  [.fixed "<div", .attr "id" .mountElementId, .fixed "></div>"]

def head (parts : List (List Piece)) : List Piece :=
  lines ([.fixed "<head>"] :: [.fixed "<meta charset=\"UTF-8\">"] ::
    [.fixed "<meta name=\"viewport\" content=\"width=device-width, initial-scale=1.0\">"] ::
    [.element "title" .title] :: parts) ++ [.fixed "\n</head>"]

def shell (head : List Piece) (parts : List (List Piece)) : List Piece :=
  .fixed "<!DOCTYPE html>\n<html lang=\"en\">\n" :: head ++ .fixed "\n<body>\n" ::
    lines parts ++ [.fixed "\n</body>\n</html>\n"]

def styles (files : FileSet) : List Piece :=
  [.fixed (styleBlock true (contentsOfKind files .style))]

def plain (files : FileSet) : List Piece :=
  let markup := contentsOfKind files .markup
  shell (head [[.fixed diagnostics], framework files, styles files])
    [if markup.isEmpty then mountElement else [.fixed (ofLines markup)],
      [.fixed (scriptBlock (contentsOfKind files .script))]]

/-- The script element of a component document. The mount script stands at the end of the project's
block. -/
def program (files : FileSet) : List Piece :=
  let presets : Text := if hasTyped files then "tsx,react" else "react"
  [.fixed ("<script type=\"text/babel\" data-presets=\"" ++ presets ++ "\">\n" ++ hookBindings ++
      "\n\n" ++ hashRouter ++ "\n\n" ++ "\x7b\n" ++
      Markup.escapeEndTags "script" (bundle files) ++ "\n\n"),
    .harness, .fixed "\n\x7d\n</script>"]

def component (files : FileSet) : List Piece :=
  shell
    (head [[.fixed diagnostics], framework files, library .reactUrl " crossorigin",
      library .reactDomUrl " crossorigin", library .babelUrl [],
      [.fixed (if hasTyped files then "<script>\n" ++ typedPreset ++ "\n</script>" else [])],
      styles files])
    [mountElement, program files]

end Template

variable {files : FileSet} {options : PreviewOptions} {mode : Option RenderMode}
  {element mountId : Text} {ps qs : List Piece} {p : Piece}

@[simp] theorem fill_nil : fill options [] = [] := rfl

theorem fill_fixed (t : Text) : fill options [.fixed t] = t := List.append_nil t

@[simp] theorem fill_cons : fill options (p :: ps) = p.text options ++ fill options ps :=
  List.flatMap_cons

@[simp] theorem fill_append : fill options (ps ++ qs) = fill options ps ++ fill options qs :=
  List.flatMap_append

theorem text_eq_nil_iff : p.text options = [] ↔ p.isEmpty = true := by
  cases p with
  | fixed t => exact List.isEmpty_iff.symm
  | attr name slot => exact iff_of_false (List.cons_ne_nil (ofChar ' ') _) Bool.false_ne_true
  | element name slot => exact iff_of_false (List.cons_ne_nil (ofChar '<') _) Bool.false_ne_true
  | harness => exact iff_of_false (List.cons_ne_nil (ofChar '(') _) Bool.false_ne_true

theorem fill_eq_nil_iff : fill options ps = [] ↔ ps.all Piece.isEmpty = true := by
  simp only [fill, List.flatMap_eq_nil_iff, List.all_eq_true, text_eq_nil_iff]

/-- Every piece stands in the filled template. -/
theorem infix_fill (h : p ∈ ps) : p.text options <:+: fill options ps := by
  obtain ⟨before, after, rfl⟩ := List.append_of_mem h
  exact ⟨fill options before, fill options after, by simp⟩

theorem fill_intersperse (parts : List (List Piece)) :
    fill options (parts.intersperse [.fixed "\n"]).flatten =
      ofLines (parts.map (fill options)) := by
  induction parts with
  | nil => rfl
  | cons ps parts ih =>
    cases parts with
    | nil => simp [ofLines, join]
    | cons qs parts =>
      rw [List.intersperse_cons_cons, List.flatten_cons, List.flatten_cons, fill_append,
        fill_append, fill_fixed, ih, ← List.append_assoc]
      exact (join_cons _ _ (List.cons_ne_nil _ _)).symm

theorem fill_lines (parts : List (List Piece)) :
    fill options (Template.lines parts) =
      ofLines ((parts.map (fill options)).filter (· ≠ [])) := by
  have hshown (part : List Piece) :
      (!part.all Piece.isEmpty) = decide (fill options part ≠ []) := by
    rw [Bool.eq_iff_iff, Bool.not_eq_true', ← Bool.not_eq_true, decide_eq_true_eq]
    exact (not_congr fill_eq_nil_iff).symm
  rw [Template.lines, fill_intersperse, List.filter_map,
    List.filter_congr fun part _ => hshown part]
  rfl

theorem fill_library (slot : Slot) (attributes : Text) :
    fill options (Template.library slot attributes) =
      libraryTag (slot.value options) attributes := by
  simp [Template.library, libraryTag, Piece.text, Slot.written]
  rfl

theorem fill_framework : fill options (Template.framework files) = frameworkTag files options := by
  rw [Template.framework, frameworkTag]
  split
  · exact fill_library .tailwindUrl []
  · rfl

theorem fill_mountElement : fill options Template.mountElement = mountElement options := by
  simp [Template.mountElement, mountElement, Piece.text, Slot.written, Slot.value]
  rfl

theorem fill_head (parts : List (List Piece)) :
    fill options (Template.head parts) = head options.title (parts.map (fill options)) := by
  have htitle : fill options [.element "title" .title] =
      "<title>" ++ Markup.escape options.title ++ "</title>" := by
    simp [Piece.text, Slot.written, Slot.value]
    rfl
  rw [Template.head, fill_append, fill_lines, List.map_cons, List.map_cons, List.map_cons,
    List.map_cons, htitle]
  rfl

theorem fill_shell (ps : List Piece) (parts : List (List Piece)) :
    fill options (Template.shell ps parts) =
      shell (fill options ps) (parts.map (fill options)) := by
  simp [Template.shell, shell, fill_lines, Piece.text]

theorem fill_plain : fill options (Template.plain files) = plain files options := by
  rw [Template.plain, fill_shell, fill_head, plain]
  simp only [List.map_cons, List.map_nil, fill_framework, apply_ite (fill options),
    fill_mountElement, Template.styles, fill_fixed]

theorem fill_program : fill options (Template.program files) =
    "<script type=\"text/babel\" data-presets=\"" ++
      (if hasTyped files then "tsx,react" else "react" : Text) ++ "\">\n" ++
      join "\n\n" [hookBindings, hashRouter, projectBlock files options] ++ "\n</script>" := by
  simp [Template.program, Piece.text, join, projectBlock, harness]
  rfl

theorem fill_component : fill options (Template.component files) = component files options := by
  rw [Template.component, fill_shell, fill_head, component]
  simp only [List.map_cons, List.map_nil, fill_framework, fill_library, fill_mountElement,
    fill_program, Template.styles, fill_fixed, Slot.value]

/-- The script has a row for every candidate whose name can stand in it. -/
theorem infix_candidateRow {candidates : List Text} {name : Text} (hmem : name ∈ candidates)
    (hname : isCandidateName name = true) (mountId : Text) :
    candidateRow name <:+: mountHarness candidates mountId := by
  have hrow : candidateRow name ∈ (candidates.filter isCandidateName).map candidateRow :=
    List.mem_map_of_mem (List.mem_filter.mpr ⟨hmem, hname⟩)
  have hrows : candidateRow name <:+:
      join ",\n" ((candidates.filter isCandidateName).map candidateRow) := infix_join hrow
  exact hrows.trans (infix_join (by simp))

/-- The script that mounts the root component holds an end tag of its element exactly if the name of
the mount element does. -/
theorem staysInside_mountHarness_iff (candidates : List Text) (hname : IsLowerName element) :
    StaysInside element (mountHarness candidates mountId) ↔ StaysInside element mountId := by
  refine ⟨fun h => Json.staysInside_of_quote hname (h.of_infix ?_), fun h =>
    staysInside_mountHarness candidates h hname⟩
  have hline : Json.quote true mountId <:+:
      "  var mountNode = document.getElementById(" ++ Json.quote true mountId ++ ");" :=
    ⟨_, _, rfl⟩
  exact hline.trans (infix_join (by simp))

/-- The template of the documents in a mode. Documents that are passed through have none. -/
def template? (files : FileSet) : RenderMode → Option (List Piece)
  | .passthrough => none
  | .component => some (Template.component files)
  | .plain => some (Template.plain files)

theorem render_eq_fill (h : template? files (mode.getD files.renderMode) = some ps) :
    render files mode options = fill options ps := by
  rw [render]
  cases hmode : mode.getD files.renderMode <;> rw [hmode] at h
  · cases h
  · exact Option.some.inj h ▸ fill_component.symm
  · exact Option.some.inj h ▸ fill_plain.symm

theorem harness_mem_intersperse (parts : List (List Piece)) :
    .harness ∈ (parts.intersperse [.fixed "\n"]).flatten ↔ ∃ part ∈ parts, .harness ∈ part := by
  induction parts with
  | nil => simp
  | cons ps parts ih =>
    cases parts with
    | nil => simp
    | cons qs parts =>
      rw [List.intersperse_cons_cons, List.flatten_cons, List.flatten_cons, List.mem_append,
        List.mem_append, ih]
      simp

theorem harness_mem_lines (parts : List (List Piece)) :
    .harness ∈ Template.lines parts ↔ ∃ part ∈ parts, .harness ∈ part := by
  rw [Template.lines, harness_mem_intersperse]
  refine exists_congr fun part => ?_
  rw [List.mem_filter, and_assoc, and_congr_right_iff]
  refine fun _ => and_iff_right_of_imp fun hmem => ?_
  rw [Bool.not_eq_true', List.all_eq_false]
  exact ⟨_, hmem, Bool.false_ne_true⟩

theorem harness_mem_head (parts : List (List Piece)) :
    .harness ∈ Template.head parts ↔ ∃ part ∈ parts, .harness ∈ part := by
  simp [Template.head, harness_mem_lines]

theorem harness_mem_shell (ps : List Piece) (parts : List (List Piece)) :
    .harness ∈ Template.shell ps parts ↔ .harness ∈ ps ∨ ∃ part ∈ parts, .harness ∈ part := by
  simp [Template.shell, harness_mem_lines]

theorem harness_mem_component (files : FileSet) : .harness ∈ Template.component files := by
  rw [Template.component, harness_mem_shell]
  exact .inr ⟨Template.program files, by simp, by simp [Template.program]⟩

theorem harness_not_mem_plain (files : FileSet) : .harness ∉ Template.plain files := by
  rw [Template.plain, harness_mem_shell, harness_mem_head, Template.framework]
  split <;> split <;> simp [Template.library, Template.mountElement, Template.styles]

/-- Whatever the options are, a component or plain document is the template of its files and mode
with their values put in: as attributes and as the title, where they hold no marks and are read back
by any reader of character references, and in the script of a component document. Candidates whose
name cannot stand in the script leave no trace in it. Only two values can break it: the name of the
mount element with an end tag in it, and the name of a candidate that ends in a line feed. -/
theorem option_values_contained (references : References) (options : PreviewOptions)
    (hmode : mode.getD files.renderMode ≠ .passthrough) :
    ∃ pieces, template? files (mode.getD files.renderMode) = some pieces ∧
      render files mode options = fill options pieces ∧
      (.harness ∈ pieces ↔ mode.getD files.renderMode = .component) ∧
      (∀ slot : Slot, Written references (slot.value options) (slot.written options)) ∧
      mountHarness (options.rootCandidates.filter isCandidateName) options.mountElementId =
        harness options ∧
      (StaysInside "script" (harness options) ↔ StaysInside "script" options.mountElementId) ∧
      ∀ name ∈ options.rootCandidates, isCandidateName name = true →
        candidateRow name <:+: harness options ∧
          (IsOneLine (candidateRow name) ↔ name.getLast? ≠ some (ofChar '\n')) := by
  have htemplate : ∃ pieces, template? files (mode.getD files.renderMode) = some pieces ∧
      (.harness ∈ pieces ↔ mode.getD files.renderMode = .component) := by
    cases hrendered : mode.getD files.renderMode with
    | passthrough => exact absurd hrendered hmode
    | component => exact ⟨_, rfl, iff_of_true (harness_mem_component files) rfl⟩
    | plain => exact ⟨_, rfl, iff_of_false (harness_not_mem_plain files) nofun⟩
  obtain ⟨pieces, hpieces, hharness⟩ := htemplate
  refine ⟨pieces, hpieces, render_eq_fill hpieces, hharness,
    fun slot => written_escape references _, ?_,
    staysInside_mountHarness_iff _ isLowerName_script, fun name hmem hname =>
      ⟨infix_candidateRow hmem hname _,
        isOneLine_candidateRow.trans (isOneLine_iff_of_isCandidateName hname)⟩⟩
  rw [harness, mountHarness, mountHarness, List.filter_filter]
  simp only [Bool.and_self]

/-- A project that is rendered as components. -/
def appFiles : FileSet := .ofList [("App.jsx", "function App() {}")]

/-- Options with marks in the values and a candidate that is no name. -/
def markedOptions : PreviewOptions :=
  { title := "<b>\"Tea\" & 'milk'", mountElementId := "</scrip", rootCandidates := ["App", "a-b"] }

theorem option_values_contained_markedOptions :
    appFiles.renderMode = .component ∧
      Slot.title.written markedOptions = "&lt;b&gt;&quot;Tea&quot; &amp; &#x27;milk&#x27;" ∧
      References.ofMarks.decode (Slot.title.written markedOptions) = "<b>\"Tea\" & 'milk'" ∧
      StaysInside "script" (harness markedOptions) ∧ IsOneLine (candidateRow "App") := by
  have hrendered : appFiles.renderMode = .component := by decide +kernel
  have hmode : (none : Option RenderMode).getD appFiles.renderMode ≠ .passthrough := by
    rw [Option.getD_none, hrendered]
    exact nofun
  obtain ⟨-, -, -, -, hwritten, -, hinside, hrows⟩ :=
    option_values_contained References.ofMarks markedOptions hmode
  have hid : StaysInside "script" markedOptions.mountElementId := by decide +kernel
  have hrow := hrows "App" (by decide +kernel) (by decide +kernel)
  exact ⟨hrendered, by decide +kernel, (hwritten .title).decoded, hinside.mpr hid,
    hrow.2.mpr (by decide +kernel)⟩

/-- Options that close the script and break a line in it. -/
def strayOptions : PreviewOptions := { mountElementId := "</script>", rootCandidates := ["Page\n"] }

theorem harness_broken_strayOptions :
    harness strayOptions <:+: render appFiles none strayOptions ∧
      ¬StaysInside "script" (harness strayOptions) ∧
      isCandidateName "Page\n" = true ∧ ¬IsOneLine (candidateRow "Page\n") := by
  have hmode : appFiles.renderMode = .component := by decide +kernel
  have hpieces : template? appFiles ((none : Option RenderMode).getD appFiles.renderMode) =
      some (Template.component appFiles) := by
    rw [Option.getD_none, hmode]
    rfl
  refine ⟨?_, by decide +kernel, by decide +kernel, by decide +kernel⟩
  rw [render_eq_fill hpieces]
  exact infix_fill (harness_mem_component appFiles)

end Document

end SitePreview
