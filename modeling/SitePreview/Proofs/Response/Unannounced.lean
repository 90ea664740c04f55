import SitePreview.Proofs.Response.Writing
import SitePreview.Proofs.Source.Suffix
import Mathlib.Data.List.Infix

/-! Responses with code blocks that nothing announces. Such a block gives no file, and the search
goes on as if it were not there, unless its last line is a marker: then its closing fence is taken
for the opening fence of a block that the marker announces. -/

namespace SitePreview.Response

open Text CodePoint Source

/-- The last line of the text holds a marker that reaches to its end. -/
def endsInMarker (t : Text) : Bool :=
  t.tails.any fun y => !y.contains (ofChar '\n') && (markedPath? y).isSome

/-- The last line of the text holds a marker with a path. -/
def endsInPath (t : Text) : Bool :=
  t.tails.any fun y => !y.contains (ofChar '\n') && (markedPath? y).any fun path => path.strip ≠ []

/-- A code block that is not announced, with the prose in front of it, which ends in the line above
the block. -/
structure Listing where
  prose : Text := []
  language : Text := []
  gap : Indent := noIndent
  code : Text
  prose_unfenced : ¬ fenceMark <:+: prose := by decide +kernel
  prose_lines : prose = [] ∨ prose.getLast? = some (ofChar '\n') := by decide +kernel
  unannounced : endsInPath prose.dropLast = false := by decide +kernel
  language_word : ∀ c ∈ language, c.isWord = true := by decide +kernel
  code_unfenced : ¬ fenceMark <:+: code := by decide +kernel

/-- An announced block with white space around its code. -/
structure SpacedBlock extends Block where
  front : Text := []
  back : Text := []
  front_blank : ∀ c ∈ front, c.isBlank = true := by decide +kernel
  back_blank : ∀ c ∈ back, c.isBlank = true := by decide +kernel

inductive Part
  | announced (b : SpacedBlock)
  | listing (l : Listing)

namespace Listing

/-- The lines in the code block. -/
def body (l : Listing) : Text := l.code ++ [ofChar '\n']

def text (l : Listing) : Text :=
  l.prose ++ (fencedText l.language l.gap l.body ++ fenceMark)

end Listing

namespace SpacedBlock

def body (b : SpacedBlock) : Text := b.front ++ (b.code ++ b.back) ++ [ofChar '\n']

def text (b : SpacedBlock) : Text :=
  b.prose ++ (b.marker ++ ofChar '\n' :: (fencedText b.language b.gap b.body ++ fenceMark))

end SpacedBlock

namespace Part

def text : Part → Text
  | announced b => b.text
  | listing l => l.text

/-- The file that a part announces. -/
def file? : Part → Option (Text × Text)
  | announced b => some b.file
  | listing _ => none

end Part

variable {s t y line path : Text}

theorem not_contains_lineFeed (h : ofChar '\n' ∉ y) : (!y.contains (ofChar '\n')) = true := by
  simpa using h

theorem markedPath?_eq_none (h : endsInMarker s = false) (hy : y <:+ s) (hline : ofChar '\n' ∉ y) :
    markedPath? y = none := by
  rw [endsInMarker, List.any_eq_false] at h
  have hnone := h y ((List.mem_tails _ _).mpr hy)
  rw [not_contains_lineFeed hline, Bool.true_and, Bool.not_eq_true, Option.isSome_eq_false_iff,
    Option.isNone_iff_eq_none] at hnone
  exact hnone

theorem strip_eq_nil_of_markedPath? (h : endsInPath s = false) (hy : y <:+ s)
    (hline : ofChar '\n' ∉ y) (hpath : markedPath? y = some path) : path.strip = [] := by
  rw [endsInPath, List.any_eq_false] at h
  have hany := h y ((List.mem_tails _ _).mpr hy)
  rw [not_contains_lineFeed hline, hpath] at hany
  simpa using hany

/-- No marker starts with a tick. -/
theorem announcedFile?_tick (s : Text) : announcedFile? (ofChar '\x60' :: s) = none := by
  by_cases hs : ofChar '\n' ∈ s
  · obtain ⟨l, z, rfl, hl⟩ := List.eq_append_cons_of_mem hs
    have hline : ofChar '\n' ∉ ofChar '\x60' :: l :=
      fun hmem => (List.mem_cons.mp hmem).elim (by decide) hl
    rw [← List.cons_append, announcedFile?, line?_append hline]
    rfl
  · have hs' : ofChar '\n' ∉ ofChar '\x60' :: s :=
      fun hmem => (List.mem_cons.mp hmem).elim (by decide) hs
    rw [announcedFile?, line?_eq_none hs']
    rfl

/-- A line that is no marker announces nothing. -/
theorem announcedFile?_unmarked (hline : ofChar '\n' ∉ line) (h : markedPath? line = none)
    (t : Text) : announcedFile? (line ++ ofChar '\n' :: t) = none := by
  simp only [announcedFile?, line?_append hline, Option.bind_eq_bind, Option.bind_some, h,
    Option.bind_none]

/-- A fence that no other one follows opens no code block. -/
theorem codeBlock?_unclosed (h : ¬ fenceMark <:+: t) : codeBlock? (fenceMark ++ t) = none := by
  rw [Option.eq_none_iff_forall_ne_some]
  rintro ⟨body, rest⟩ hfound
  simp only [codeBlock?, after?_append, Option.bind_eq_bind, Option.bind_some,
    Option.bind_eq_some_iff] at hfound
  obtain ⟨inside, hinside, hbody⟩ := hfound
  obtain ⟨rfl, -⟩ := untilFence?_eq_some hbody
  have hsuffix : body ++ (fenceMark ++ rest) <:+ t :=
    (after?_suffix hinside).trans ((skipInline_suffix _).trans (List.dropWhile_suffix _))
  exact h (List.IsInfix.trans ⟨body, rest, by simp⟩ hsuffix.isInfix)

section Search

variable {α : Type} {recognise : Text → Option (α × Text)} {real : α → Bool} {rest : Text}

/-- A search finds the same real things behind a text at each place of which it either recognises
nothing or jumps to the same place with something that is not real. -/
theorem filter_findAll_append (hrest : rest.length ≤ t.length)
    (h : ∀ x y, s = x ++ y → y ≠ [] → recognise (y ++ t) = none ∨
      ∃ a, real a = false ∧ recognise (y ++ t) = some (a, rest))
    (ht : (findAll recognise t).filter real = (findAll recognise rest).filter real) :
    (findAll recognise (s ++ t)).filter real = (findAll recognise rest).filter real := by
  induction s with
  | nil => exact ht
  | cons c s ih =>
    have htail := ih fun x y hs hy => h (c :: x) y (by rw [hs, List.cons_append]) hy
    rcases h [] (c :: s) rfl (List.cons_ne_nil c s) with hnone | ⟨a, hreal, hsome⟩
    · rw [List.cons_append] at hnone ⊢
      rw [findAll, hnone]
      exact htail
    · have hlt : rest.length < (c :: s ++ t).length := by
        rw [List.length_append, List.length_cons]
        omega
      rw [findAll_of_some hsome hlt, List.filter_cons_of_neg (by simp [hreal])]

end Search

namespace Listing

variable (l : Listing)

theorem body_unfenced : ¬ fenceMark <:+: l.body := unfenced_concat l.code_unfenced (by decide)

theorem codeBlock?_text (t : Text) :
    codeBlock? (fencedText l.language l.gap l.body ++ (fenceMark ++ t)) = some (l.body, t) :=
  codeBlock?_fencedText l.language_word l.gap (.inr List.getLast?_concat) l.body_unfenced t

theorem after?_body (t : Text) : after? fenceMark (l.body ++ t) = none :=
  after?_fenceMark_eq_none (not_prefix_of_lines List.getLast?_concat l.body_unfenced t)

/-- Within the opening line nothing is announced, as no fence opens the next one. -/
theorem announcedFile?_opening {c : CodePoint} {front : Text}
    (hfront : c :: front <:+ fenceMark ++ (l.language ++ l.gap.text)) (t : Text) :
    announcedFile? (c :: front ++ ofChar '\n' :: (l.body ++ t)) = none := by
  have hline : ofChar '\n' ∉ c :: front := by
    intro hmem
    have hopen := hfront.subset hmem
    rw [List.mem_append, List.mem_append] at hopen
    rcases hopen with hfence | hword | hgap
    · exact absurd hfence (by decide)
    · exact absurd (l.language_word _ hword) (by decide)
    · exact lineFeed_not_mem_indent l.gap hgap
  exact announcedFile?_eq_none hline (l.after?_body t)

/-- Within the lines of the block nothing is announced, if the last one is no marker or no fence
follows. -/
theorem announcedFile?_inside (h : endsInMarker l.code = false ∨ ¬ fenceMark <:+: t)
    {c : CodePoint} {u : Text} (hu : c :: u <:+ l.body) : announcedFile? (c :: u ++ (fenceMark ++ t)) = none := by
  obtain ⟨x, hx⟩ := hu
  have hlast : (c :: u).getLast? = some (ofChar '\n') := by
    rw [← List.getLast?_append_of_ne_nil x (List.cons_ne_nil c u), hx]
    exact List.getLast?_concat
  have hunfenced : ¬ fenceMark <:+: c :: u := fun hfence =>
    l.body_unfenced (hfence.trans (List.IsSuffix.isInfix ⟨x, hx⟩))
  rcases announcedFile?_lines hlast hunfenced with ⟨line, heq, hline⟩ | hnone
  · rw [heq, List.append_assoc, List.singleton_append]
    rw [heq, ← List.append_assoc, body] at hx
    have hcode : line <:+ l.code := ⟨x, List.append_cancel_right hx⟩
    rcases h with hmarker | hafter
    · exact announcedFile?_unmarked hline (markedPath?_eq_none hmarker hcode hline) _
    · simp only [announcedFile?, line?_append hline, codeBlock?_unclosed hafter,
        Option.bind_eq_bind, Option.bind_some, Option.bind_none, Option.bind_fun_none]
  · exact hnone _

/-- Nothing is announced where an unannounced code block stands, if its last line is no marker or no
fence follows. -/
theorem announcedFile?_text (h : endsInMarker l.code = false ∨ ¬ fenceMark <:+: t)
    (hy : y <:+ fencedText l.language l.gap l.body ++ fenceMark) (hne : y ≠ []) :
    announcedFile? (y ++ t) = none := by
  obtain ⟨c, v, rfl⟩ := List.exists_cons_of_ne_nil hne
  have hopening : fencedText l.language l.gap l.body =
      fenceMark ++ (l.language ++ l.gap.text) ++ ofChar '\n' :: l.body := by
    simp [fencedText]
  rcases suffix_append_cases hy with hclosing | ⟨u, hu, rfl⟩
  · -- within the closing fence
    have htick : ∀ c ∈ fenceMark, c = ofChar '\x60' := by decide
    rw [htick c (hclosing.subset List.mem_cons_self)]
    exact announcedFile?_tick _
  rw [hopening] at hu
  rcases suffix_append_cases hu with hbelow | ⟨front, hfront, rfl⟩
  · rw [← List.cons_append, List.append_assoc]
    rcases List.suffix_cons_iff.mp hbelow with heq | hinside
    · -- at the end of the opening line
      rw [heq]
      exact announcedFile?_eq_none (l := []) List.not_mem_nil (l.after?_body _)
    · exact l.announcedFile?_inside h hinside
  · rw [← List.cons_append, ← List.cons_append, List.append_assoc, List.append_assoc,
      List.cons_append]
    exact l.announcedFile?_opening hfront _

/-- A search passes by an unannounced code block with the prose in front of it. -/
theorem filter_findAll_text {real : (Text × Text) → Bool} (hreal : ∀ code, real ([], code) = false)
    (h : endsInMarker l.code = false ∨ ¬ fenceMark <:+: t) :
    (findAll announcedFile? (l.text ++ t)).filter real =
      (findAll announcedFile? t).filter real := by
  let block : Text := fencedText l.language l.gap l.body ++ fenceMark
  have hpass : findAll announcedFile? (block ++ t) = findAll announcedFile? t :=
    findAll_append fun x y hxy hy => l.announcedFile?_text h ⟨x, hxy.symm⟩ hy
  rw [text, List.append_assoc]
  refine filter_findAll_append ?_ (fun x y hxy hy => ?_) (congrArg _ hpass)
  · rw [List.length_append]
    omega
  -- the line above the block may be a marker without a path
  have hlast : y.getLast? = some (ofChar '\n') := by
    rcases l.prose_lines with hnil | hlast
    · rw [hxy, List.append_eq_nil_iff] at hnil
      exact absurd hnil.2 hy
    · rwa [hxy, List.getLast?_append_of_ne_nil x hy] at hlast
  have hunfenced : ¬ fenceMark <:+: y := fun hfence =>
    l.prose_unfenced (hfence.trans (hxy ▸ (List.suffix_append x y).isInfix))
  rcases announcedFile?_lines hlast hunfenced with ⟨line, rfl, hline⟩ | hnone
  · rw [List.append_assoc, List.singleton_append]
    cases hmarked : markedPath? line with
    | none => exact .inl (announcedFile?_unmarked hline hmarked _)
    | some path =>
      have hprose : line <:+ l.prose.dropLast := by
        rw [hxy, ← List.append_assoc, List.dropLast_concat]
        exact List.suffix_append x line
      have hstrip := strip_eq_nil_of_markedPath? l.unannounced hprose hline hmarked
      refine .inr ⟨([], l.body.strip), hreal _, ?_⟩
      simp only [announcedFile?, line?_append hline, hmarked, List.append_assoc, l.codeBlock?_text,
        Option.bind_eq_bind, Option.bind_some, hstrip]
  · exact .inl (hnone _)

end Listing

theorem tick_not_blank {c : CodePoint} (h : c.isBlank = true) : c ≠ ofChar '\x60' := by
  rintro rfl
  exact absurd h (by decide)

theorem unfenced_append_blank (h : ¬ fenceMark <:+: s) (ht : ∀ c ∈ t, c.isBlank = true) :
    ¬ fenceMark <:+: s ++ t := by
  induction t using List.reverseRecOn with
  | nil => rwa [List.append_nil]
  | append_singleton t c ih =>
    rw [List.forall_mem_append] at ht
    rw [← List.append_assoc]
    exact unfenced_concat (ih ht.1) (tick_not_blank (ht.2 c List.mem_cons_self))

theorem unfenced_blank_append (hs : ∀ c ∈ s, c.isBlank = true) (h : ¬ fenceMark <:+: t) :
    ¬ fenceMark <:+: s ++ t := by
  induction s with
  | nil => exact h
  | cons c s ih =>
    rw [List.forall_mem_cons] at hs
    intro hinfix
    rcases List.infix_cons_iff.mp hinfix with hprefix | hinfix
    · exact tick_not_blank hs.1 (List.cons_prefix_cons.mp hprefix).1.symm
    · exact ih hs.2 hinfix

namespace SpacedBlock

variable (b : SpacedBlock)

theorem body_unfenced : ¬ fenceMark <:+: b.body :=
  unfenced_concat (unfenced_blank_append b.front_blank
    (unfenced_append_blank b.code_unfenced b.back_blank)) (by decide)

theorem strip_body : b.body.strip = b.code := by
  have hbody : b.body = b.front ++ (b.code ++ (b.back ++ [ofChar '\n'])) := by simp [body]
  have hback : ∀ c ∈ b.back ++ [ofChar '\n'], c.isBlank = true :=
    List.forall_mem_append.mpr ⟨b.back_blank, by decide⟩
  rw [hbody]
  exact strip_append b.code_strip b.code_ne_nil b.front_blank hback

theorem findAll_text (t : Text) :
    findAll announcedFile? (b.text ++ t) = b.file :: findAll announcedFile? t := by
  have hlines : b.body = [] ∨ b.body.getLast? = some (ofChar '\n') := .inr List.getLast?_concat
  have hfound := b.findAll_announced hlines b.body_unfenced t
  rw [b.strip_body] at hfound
  exact hfound

end SpacedBlock

/-- A response with the parts and prose behind them. -/
def composed (parts : List Part) (after : Text) : Text := parts.flatMap Part.text ++ after

theorem filter_findAll_composed (parts : List Part)
    (hlistings : ∀ l, Part.listing l ∈ parts.dropLast → endsInMarker l.code = false)
    (h : ¬ fenceMark <:+: s) :
    (findAll announcedFile? (composed parts s)).filter
        (fun (path, code) => decide (path ≠ []) && decide (code ≠ [])) =
      parts.filterMap Part.file? := by
  set real : (Text × Text) → Bool := fun (path, code) => decide (path ≠ []) && decide (code ≠ [])
  induction parts with
  | nil =>
    have hnone : findAll announcedFile? s = [] := findAll_eq_nil fun y hy =>
      announcedFile?_unfenced fun hfence => h (hfence.trans hy.isInfix)
    show (findAll announcedFile? s).filter real = []
    rw [hnone]
    rfl
  | cons part parts ih =>
    have hrest := ih fun l hl => hlistings l (by
      rw [List.dropLast_cons_of_ne_nil (List.ne_nil_of_mem (List.mem_of_mem_dropLast hl))]
      exact List.mem_cons_of_mem _ hl)
    rw [composed, List.flatMap_cons, List.append_assoc]
    cases part with
    | announced b =>
      have hkept : real b.file = true := by
        simp [real, Block.file, b.path_ne_nil, b.code_ne_nil]
      show (findAll announcedFile? (b.text ++ composed parts s)).filter real = _
      rw [b.findAll_text, List.filter_cons_of_pos hkept, hrest]
      rfl
    | listing l =>
      have hpass : endsInMarker l.code = false ∨ ¬ fenceMark <:+: composed parts s := by
        cases parts with
        | nil => exact .inr h
        | cons p parts => exact .inl (hlistings l List.mem_cons_self)
      show (findAll announcedFile? (l.text ++ composed parts s)).filter real = _
      rw [l.filter_findAll_text (fun _ => rfl) hpass, hrest]
      rfl

/-- Code blocks that nothing announces give no files and keep none from being found, whatever is in
them, as long as the last line of each but the last part is no marker. -/
theorem files_composed (parts : List Part) {after : Text} (h : ¬ fenceMark <:+: after)
    (hannounced : ∃ b, Part.announced b ∈ parts)
    (hlistings : ∀ l, Part.listing l ∈ parts.dropLast → endsInMarker l.code = false) :
    files (composed parts after) = .ofList (parts.filterMap Part.file?) ∧
      (files (composed parts after)).paths = distinct ((parts.filterMap Part.file?).map Prod.fst) ∧
      ∀ path, (files (composed parts after)).get? path =
        (parts.filterMap Part.file?).reverse.lookup path := by
  have hfiles : files (composed parts after) = .ofList (parts.filterMap Part.file?) := by
    have hfound : announcedFiles (composed parts after) = .ofList (parts.filterMap Part.file?) :=
      congrArg FileSet.ofList (filter_findAll_composed parts hlistings h)
    obtain ⟨b, hb⟩ := hannounced
    have hne : parts.filterMap Part.file? ≠ [] :=
      List.ne_nil_of_mem (List.mem_filterMap.mpr ⟨_, hb, rfl⟩)
    rw [files, hfound]
    exact if_neg (FileSet.size_ofList_ne_zero hne)
  rw [hfiles, FileSet.paths_ofList]
  exact ⟨rfl, rfl, FileSet.get?_ofList _⟩

theorem blank_isInlineBlank : ∀ c ∈ (" " : Text), c.isInlineBlank = true := by decide

/-- A file between two listings, of which the first one holds a marker line above its last line, and
the last one ends with one. -/
def listedParts : List Part :=
  let blank : Indent := ⟨" ", blank_isInlineBlank⟩
  [.listing {
     prose := "Run this:\n"
     language := "sh"
     code := "// filename: b.ts\nnpm install" },
   .announced {
     prose := "\nThe file:\n"
     style := .comment blank blank
     path := "a.ts"
     language := "ts"
     code := "main()"
     path_admitted := trivial
     front := "  " },
   .listing {
     prose := "\nA remark:\n"
     language := "text"
     code := "// filename: c.ts" }]

theorem files_composed_listedParts :
    (¬ fenceMark <:+: "\nDone." ∧ (∃ b, Part.announced b ∈ listedParts) ∧
      ∀ l, Part.listing l ∈ listedParts.dropLast → endsInMarker l.code = false) ∧
      composed listedParts "\nDone." =
        "Run this:\n\x60\x60\x60sh\n// filename: b.ts\nnpm install\n\x60\x60\x60\nThe file:\n" ++
        "// filename: a.ts\n\x60\x60\x60ts\n  main()\n\x60\x60\x60\nA remark:\n" ++
        "\x60\x60\x60text\n// filename: c.ts\n\x60\x60\x60\nDone." ∧
      files (composed listedParts "\nDone.") = .ofList [("a.ts", "main()")] := by
  have hafter : ¬ fenceMark <:+: "\nDone." := by decide +kernel
  have hannounced : ∃ b, Part.announced b ∈ listedParts :=
    ⟨_, List.mem_cons_of_mem _ List.mem_cons_self⟩
  have hlistings : ∀ l, Part.listing l ∈ listedParts.dropLast → endsInMarker l.code = false := by
    intro l hl
    rcases List.mem_cons.mp hl with hfirst | hl
    · rw [Part.listing.inj hfirst]
      decide +kernel
    · exact absurd (List.mem_singleton.mp hl) Part.noConfusion
  have hfiles := (files_composed listedParts hafter hannounced hlistings).1
  exact ⟨⟨hafter, hannounced, hlistings⟩, by decide +kernel, hfiles.trans (by decide +kernel)⟩

/-- A listing that ends in a marker, with a file behind it. -/
def endsInMarkerParts : List Part :=
  let blank : Indent := ⟨" ", blank_isInlineBlank⟩
  [.listing {
     language := "sh"
     code := "// filename: b.ts" },
   .announced {
     prose := "\nThe file:\n"
     style := .comment blank blank
     path := "a.ts"
     language := "ts"
     code := "main()"
     path_admitted := trivial }]

/-- The closing fence of such a listing is taken for the opening fence of a block, so the file
behind it is lost and the prose and marker above it become the code of another one. -/
theorem files_composed_endsInMarkerParts :
    files (composed endsInMarkerParts []) = .ofList [("b.ts", "The file:\n// filename: a.ts")] ∧
      endsInMarkerParts.filterMap Part.file? = [(("a.ts" : Text), ("main()" : Text))] ∧
      files (composed endsInMarkerParts []) ≠ .ofList (endsInMarkerParts.filterMap Part.file?) := by
  have hfiles : files (composed endsInMarkerParts []) =
      .ofList [("b.ts", "The file:\n// filename: a.ts")] := by decide +kernel
  have hannounced : endsInMarkerParts.filterMap Part.file? =
      [(("a.ts" : Text), ("main()" : Text))] := rfl
  refine ⟨hfiles, hannounced, ?_⟩
  rw [hfiles, hannounced]
  decide +kernel

end SitePreview.Response
