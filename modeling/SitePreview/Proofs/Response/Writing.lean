import SitePreview.Proofs.FileSet.Lookup
import SitePreview.Proofs.Response.Marking
import SitePreview.Response.Parser

/-! Responses as they are written: prose, and announced code blocks between it. The files in such a
response are those that were written. -/

namespace SitePreview.Response

open Text CodePoint Source

def noIndent : Indent := ⟨[], by decide⟩

/-- A file in a response with the prose in front of it. The prose starts behind the fence mark that
closes the block before, with the rest of that line, and ends with a line of its own. -/
structure Block where
  prose : Text
  style : MarkerStyle
  path : Text
  margin : Indent := noIndent
  language : Text := []
  gap : Indent := noIndent
  code : Text
  path_admitted : style.Admits path
  prose_unfenced : ¬ fenceMark <:+: prose := by decide +kernel
  prose_lines : prose = [] ∨ prose.getLast? = some (ofChar '\n') := by decide +kernel
  path_ne_nil : path ≠ [] := by decide +kernel
  path_line : ofChar '\n' ∉ path := by decide +kernel
  path_strip : path.strip = path := by decide +kernel
  language_word : ∀ c ∈ language, c.isWord = true := by decide +kernel
  code_ne_nil : code ≠ [] := by decide +kernel
  code_strip : code.strip = code := by decide +kernel
  code_unfenced : ¬ fenceMark <:+: code := by decide +kernel

namespace Block

/-- The line above the code block. -/
def marker (b : Block) : Text := b.style.text b.path ++ b.margin.text

/-- The code block without what closes it. -/
def fenced (b : Block) : Text :=
  fenceMark ++ (b.language ++ (b.gap.text ++ ofChar '\n' :: (b.code ++ [ofChar '\n'])))

def text (b : Block) : Text := b.prose ++ (b.marker ++ ofChar '\n' :: (b.fenced ++ fenceMark))

def file (b : Block) : Text × Text := (b.path, b.code)

end Block

/-- A response with the blocks and prose behind them. -/
def written (blocks : List Block) (after : Text) : Text := blocks.flatMap Block.text ++ after

/-- A code block with a body of whole lines, without what closes it. -/
def fencedText (language : Text) (gap : Indent) (body : Text) : Text :=
  fenceMark ++ (language ++ (gap.text ++ ofChar '\n' :: body))

variable {α : Type} {recognise : Text → Option (α × Text)} {a : α}
  {s t l z rest language body : Text}

theorem findAll_of_some (h : recognise s = some (a, rest)) (hlt : rest.length < s.length) :
    findAll recognise s = a :: findAll recognise rest := by
  cases s with
  | nil => cases hlt
  | cons c s =>
    rw [findAll, h]
    exact if_pos hlt

/-- A search passes by a text in which nothing is recognised. -/
theorem findAll_append (h : ∀ x y, s = x ++ y → y ≠ [] → recognise (y ++ t) = none) :
    findAll recognise (s ++ t) = findAll recognise t := by
  induction s with
  | nil => rfl
  | cons c s ih =>
    have hhere : recognise (c :: (s ++ t)) = none := h [] (c :: s) rfl (List.cons_ne_nil c s)
    rw [List.cons_append, findAll, hhere]
    exact ih fun x y hs hy => h (c :: x) y (by rw [hs, List.cons_append]) hy

theorem findAll_eq_nil (h : ∀ y, y <:+ s → recognise y = none) : findAll recognise s = [] := by
  have hpass : findAll recognise (s ++ []) = findAll recognise [] := by
    refine findAll_append fun x y hs _ => ?_
    rw [List.append_nil]
    exact h y (hs ▸ List.suffix_append x y)
  rw [List.append_nil] at hpass
  rw [hpass, findAll]

theorem line?_append (hl : ofChar '\n' ∉ l) (z : Text) :
    line? (l ++ ofChar '\n' :: z) = some (l, z) := by
  have hall : ∀ c ∈ l, decide (c ≠ ofChar '\n') = true :=
    fun c hc => decide_eq_true fun heq => hl (heq ▸ hc)
  have hstop : notAhead (fun c => decide (c ≠ ofChar '\n')) (ofChar '\n' :: z) = true := rfl
  simp only [line?, dropWhile_append_stop hall hstop, takeWhile_append_stop hall hstop]
  rfl

theorem line?_eq_none (h : ofChar '\n' ∉ s) : line? s = none := by
  have hall : ∀ c ∈ s, decide (c ≠ ofChar '\n') = true :=
    fun c hc => decide_eq_true fun heq => h (heq ▸ hc)
  simp only [line?, List.dropWhile_eq_nil_iff.mpr hall]
  rfl

theorem codeBlock?_eq_none (h : after? fenceMark s = none) : codeBlock? s = none := by
  rw [codeBlock?, h]
  rfl

/-- A code block that is announced stands right below the line. -/
theorem announcedFile?_eq_none (hl : ofChar '\n' ∉ l) (hz : after? fenceMark z = none) :
    announcedFile? (l ++ ofChar '\n' :: z) = none := by
  simp only [announcedFile?, line?_append hl, codeBlock?_eq_none hz, Option.bind_eq_bind,
    Option.bind_some, Option.bind_none, Option.bind_fun_none]

theorem after?_fenceMark_eq_none (h : ¬ fenceMark <+: s) : after? fenceMark s = none := by
  cases hs : after? fenceMark s with
  | none => rfl
  | some rest => exact absurd ⟨rest, (eq_append_of_after? hs).symm⟩ h

/-- No fence mark stands where whole lines do that hold none, whatever follows them. -/
theorem not_prefix_of_lines (hs : s.getLast? = some (ofChar '\n')) (h : ¬ fenceMark <:+: s)
    (t : Text) : ¬ fenceMark <+: s ++ t := by
  intro hfence
  rcases List.prefix_or_prefix_of_prefix hfence (List.prefix_append s t) with hs' | hs'
  · exact h hs'.isInfix
  · -- the mark would go on behind the lines, but it holds no line feed
    have hmem : ofChar '\n' ∈ fenceMark := hs'.subset (List.mem_of_getLast? hs)
    exact absurd hmem (by decide)

theorem untilFence?_append (hs : s = [] ∨ s.getLast? = some (ofChar '\n'))
    (h : ¬ fenceMark <:+: s) (t : Text) : untilFence? (s ++ (fenceMark ++ t)) = some (s, t) := by
  induction s with
  | nil => rfl
  | cons c s ih =>
    have hend := hs.resolve_left (List.cons_ne_nil c s)
    have hnone := after?_fenceMark_eq_none (not_prefix_of_lines hend h (fenceMark ++ t))
    have hs' : s = [] ∨ s.getLast? = some (ofChar '\n') := by
      cases s with
      | nil => exact .inl rfl
      | cons d s => exact .inr (by simpa using hend)
    have htail := ih hs' fun hinfix => h (List.infix_cons hinfix)
    rw [List.cons_append] at hnone ⊢
    rw [untilFence?, hnone]
    simp only [htail, Option.map_some]

theorem untilFence?_eq_some (h : untilFence? s = some (body, rest)) :
    s = body ++ (fenceMark ++ rest) ∧ ¬ fenceMark <:+: body := by
  induction s generalizing body with
  | nil => cases h
  | cons c s ih =>
    rw [untilFence?] at h
    split at h
    · next found hfound =>
      obtain ⟨rfl, rfl⟩ := Prod.mk.inj (Option.some.inj h)
      have hmark : c :: s = fenceMark ++ found := eq_append_of_after? hfound
      exact ⟨hmark, by decide⟩
    · next hnone =>
      obtain ⟨⟨front, after⟩, hfront, heq⟩ := Option.map_eq_some_iff.mp h
      obtain ⟨rfl, rfl⟩ := Prod.mk.inj heq
      obtain ⟨rfl, hunfenced⟩ := ih hfront
      refine ⟨rfl, fun hinfix => ?_⟩
      rcases List.infix_cons_iff.mp hinfix with ⟨u, hu⟩ | hinfix
      · -- a fence mark in front would have ended the body
        rw [← List.cons_append, ← hu, List.append_assoc, after?_append] at hnone
        cases hnone
      · exact hunfenced hinfix

theorem codeBlock?_fencedText (hlanguage : ∀ c ∈ language, c.isWord = true) (gap : Indent)
    (hlines : body = [] ∨ body.getLast? = some (ofChar '\n')) (hbody : ¬ fenceMark <:+: body)
    (t : Text) :
    codeBlock? (fencedText language gap body ++ (fenceMark ++ t)) = some (body, t) := by
  let below : Text := ofChar '\n' :: (body ++ (fenceMark ++ t))
  have hfenced : fencedText language gap body ++ (fenceMark ++ t) =
      fenceMark ++ (language ++ (gap.text ++ below)) := by
    simp [fencedText, below]
  have hword : notAhead isWord (gap.text ++ below) = true :=
    notAhead_indent_append gap
      (fun c hc => (Bool.or_eq_false_iff.mp (isIdentifierPart_of_isInlineBlank hc)).1) rfl
  have hbelow : skipInline (gap.text ++ below) = below :=
    dropWhile_append_stop gap.all_inline rfl
  have hline : after? "\n" below = some (body ++ (fenceMark ++ t)) := after?_append "\n" _
  rw [hfenced]
  simp only [codeBlock?, after?_append, Option.bind_eq_bind, Option.bind_some,
    dropWhile_append_stop hlanguage hword, hbelow, hline, untilFence?_append hlines hbody]

/-- Nothing is announced above lines without a fence mark. Only the last one of them may be a
marker. -/
theorem announcedFile?_lines (hs : s.getLast? = some (ofChar '\n')) (h : ¬ fenceMark <:+: s) :
    (∃ l, s = l ++ [ofChar '\n'] ∧ ofChar '\n' ∉ l) ∨ ∀ t, announcedFile? (s ++ t) = none := by
  -- the first line, and the lines below it
  obtain ⟨l, z, rfl, hl⟩ := List.eq_append_cons_of_mem (List.mem_of_getLast? hs)
  cases z with
  | nil => exact .inl ⟨l, rfl, hl⟩
  | cons d z =>
    refine .inr fun t => ?_
    have hz : (d :: z).getLast? = some (ofChar '\n') := by simpa using hs
    have hinside : d :: z <:+: l ++ ofChar '\n' :: d :: z :=
      ((List.suffix_cons _ _).trans (List.suffix_append _ _)).isInfix
    rw [List.append_assoc, List.cons_append]
    exact announcedFile?_eq_none hl (after?_fenceMark_eq_none
      (not_prefix_of_lines hz (fun hfence => h (hfence.trans hinside)) t))

/-- In prose that ends with its line nothing is announced, unless a fence follows. -/
theorem announcedFile?_prose (hs : s.getLast? = some (ofChar '\n'))
    (h : ¬ fenceMark <:+: s) (ht : ¬ fenceMark <+: t) : announcedFile? (s ++ t) = none := by
  rcases announcedFile?_lines hs h with ⟨l, rfl, hl⟩ | hnone
  · rw [List.append_assoc]
    exact announcedFile?_eq_none hl (after?_fenceMark_eq_none ht)
  · exact hnone t

theorem unfenced_concat {c : CodePoint} (h : ¬ fenceMark <:+: s) (hc : c ≠ ofChar '\x60') :
    ¬ fenceMark <:+: s ++ [c] := by
  intro hinfix
  rcases List.infix_concat_iff.mp hinfix with ⟨u, hu⟩ | hinfix
  · have hlast := congrArg List.getLast? hu
    have hfence : fenceMark.getLast? = some (ofChar '\x60') := rfl
    rw [List.getLast?_concat, List.getLast?_append, hfence, Option.some_or] at hlast
    exact hc (Option.some.inj hlast).symm
  · exact h hinfix

theorem announcedFile?_unfenced (h : ¬ fenceMark <:+: s) : announcedFile? s = none := by
  by_cases hs : ofChar '\n' ∈ s
  · obtain ⟨l, z, rfl, hl⟩ := List.eq_append_cons_of_mem hs
    refine announcedFile?_eq_none hl (after?_fenceMark_eq_none fun hz => h ?_)
    exact hz.isInfix.trans ((List.suffix_cons _ _).trans (List.suffix_append _ _)).isInfix
  · rw [announcedFile?, line?_eq_none hs]
    rfl

namespace Block

variable (b : Block)

theorem lineFeed_not_mem_marker : ofChar '\n' ∉ b.marker := by
  rw [marker, List.mem_append, not_or]
  exact ⟨Response.lineFeed_not_mem_marker b.style b.path_line, lineFeed_not_mem_indent b.margin⟩

/-- A marker announces the code block below it, whatever lines that holds. -/
theorem announcedFile?_marker (hlines : body = [] ∨ body.getLast? = some (ofChar '\n'))
    (hbody : ¬ fenceMark <:+: body) (t : Text) :
    announcedFile?
        (b.marker ++ ofChar '\n' :: (fencedText b.language b.gap body ++ (fenceMark ++ t))) =
      some ((b.path, body.strip), t) := by
  obtain ⟨path, hpath, hstrip⟩ :=
    exists_markedPath? b.style b.margin b.path_ne_nil b.path_strip b.path_admitted
  have hmarked : markedPath? b.marker = some path := hpath
  simp only [announcedFile?, line?_append b.lineFeed_not_mem_marker, hmarked,
    codeBlock?_fencedText b.language_word b.gap hlines hbody, Option.bind_eq_bind, Option.bind_some,
    hstrip]

theorem marker_not_fence (t : Text) : ¬ fenceMark <+: b.marker ++ t := by
  obtain ⟨c, hc, hne⟩ := head?_marker b.style b.path
  obtain ⟨s, hs⟩ := List.head?_eq_some_iff.mp hc
  rw [marker, hs]
  intro h
  exact hne (List.cons_prefix_cons.mp h).1.symm

/-- Up to its end, an announced code block is passed by but for the file in it. -/
theorem findAll_announced (hlines : body = [] ∨ body.getLast? = some (ofChar '\n'))
    (hbody : ¬ fenceMark <:+: body) (t : Text) :
    findAll announcedFile? (b.prose ++ (b.marker ++
        ofChar '\n' :: (fencedText b.language b.gap body ++ fenceMark)) ++ t) =
      (b.path, body.strip) :: findAll announcedFile? t := by
  let announced : Text :=
    b.marker ++ ofChar '\n' :: (fencedText b.language b.gap body ++ (fenceMark ++ t))
  have htext : b.prose ++ (b.marker ++
      ofChar '\n' :: (fencedText b.language b.gap body ++ fenceMark)) ++ t =
        b.prose ++ announced := by
    simp [announced]
  have hprose :
      findAll announcedFile? (b.prose ++ announced) = findAll announcedFile? announced := by
    refine findAll_append fun x y hxy hy => ?_
    -- every end of the prose ends with the prose's last line
    have hlines : y.getLast? = some (ofChar '\n') := by
      rcases b.prose_lines with hnil | hlast
      · rw [hxy, List.append_eq_nil_iff] at hnil
        exact absurd hnil.2 hy
      · rwa [hxy, List.getLast?_append_of_ne_nil x hy] at hlast
    have hunfenced : ¬ fenceMark <:+: y := fun h =>
      b.prose_unfenced (h.trans (hxy ▸ (List.suffix_append x y).isInfix))
    exact announcedFile?_prose hlines hunfenced (b.marker_not_fence _)
  rw [htext, hprose]
  refine findAll_of_some (b.announcedFile?_marker hlines hbody t) ?_
  simp [announced]
  omega

theorem findAll_text (t : Text) :
    findAll announcedFile? (b.text ++ t) = b.file :: findAll announcedFile? t := by
  have hcode : strip (b.code ++ [ofChar '\n']) = b.code :=
    strip_append (a := []) b.code_strip b.code_ne_nil (by simp) (by decide)
  have hbody : ¬ fenceMark <:+: b.code ++ [ofChar '\n'] :=
    unfenced_concat b.code_unfenced (by decide)
  have hfound := b.findAll_announced (.inr List.getLast?_concat) hbody t
  rw [hcode] at hfound
  exact hfound

end Block

theorem findAll_written (blocks : List Block) (h : ¬ fenceMark <:+: s) :
    findAll announcedFile? (written blocks s) = blocks.map Block.file := by
  induction blocks with
  | nil =>
    refine findAll_eq_nil fun y hy => announcedFile?_unfenced fun hfence => h ?_
    exact hfence.trans hy.isInfix
  | cons b blocks ih =>
    rw [written, List.flatMap_cons, List.append_assoc, b.findAll_text, List.map_cons]
    exact congrArg (b.file :: ·) ih

theorem selfNamedFiles_unfenced (h : ¬ fenceMark <:+: s) : selfNamedFiles s = .empty := by
  have hnone : findAll codeBlock? s = [] := by
    refine findAll_eq_nil fun y hy => codeBlock?_eq_none ?_
    refine after?_fenceMark_eq_none fun hfence => h ?_
    exact hfence.isInfix.trans hy.isInfix
  rw [selfNamedFiles, hnone]
  rfl

/-- The files in a response that was written are those that were written into it: each path at the
place where it was written first, with the code that was written last. -/
theorem files_written (blocks : List Block) {after : Text} (h : ¬ fenceMark <:+: after) :
    files (written blocks after) = .ofList (blocks.map Block.file) ∧
      (files (written blocks after)).paths = distinct (blocks.map Block.path) ∧
      ∀ path, (files (written blocks after)).get? path =
        (blocks.map Block.file).reverse.lookup path := by
  have hfiles : files (written blocks after) = .ofList (blocks.map Block.file) := by
    have hkept : ∀ f ∈ blocks.map Block.file, (decide (f.1 ≠ []) && decide (f.2 ≠ [])) = true := by
      rw [List.forall_mem_map]
      intro b _
      simp [Block.file, b.path_ne_nil, b.code_ne_nil]
    have hannounced : announcedFiles (written blocks after) = .ofList (blocks.map Block.file) := by
      rw [announcedFiles, findAll_written blocks h]
      exact congrArg FileSet.ofList (List.filter_eq_self.mpr hkept)
    rw [files, hannounced]
    -- without announced files, the blocks that name their files are looked for
    cases blocks with
    | nil => exact selfNamedFiles_unfenced h
    | cons b blocks => exact if_neg (FileSet.size_ofList_ne_zero (List.cons_ne_nil _ _))
  rw [hfiles, FileSet.paths_ofList, List.map_map]
  exact ⟨rfl, rfl, FileSet.get?_ofList _⟩

/-- One block of each style; the last one is for the path of the first. -/
def mixedBlocks : List Block :=
  let blank : Indent := ⟨" ", by decide⟩
  [{ prose := "Two files:\n"
     style := .comment blank blank
     path := "a.js"
     language := "js"
     code := "f()"
     path_admitted := trivial },
   { prose := "\n"
     style := .markup blank blank blank
     path := "b.html"
     code := "<p>"
     path_admitted := trivial },
   { prose := "\n\n"
     style := .bold true
     path := "c.css"
     language := "css"
     code := "p"
     path_admitted := ⟨by decide +kernel, by decide +kernel, "c", "css", by decide, by decide,
       by decide, rfl⟩ },
   { prose := "\nAgain:\n"
     style := .heading 2 blank false
     path := "a.js"
     code := "g()"
     path_admitted := ⟨by decide +kernel, by decide +kernel, "a", "js", by decide, by decide,
       by decide, rfl⟩ }]

theorem files_written_mixedBlocks :
    ¬ fenceMark <:+: "\nDone." ∧
      written mixedBlocks "\nDone." =
        "Two files:\n// filename: a.js\n\x60\x60\x60js\nf()\n\x60\x60\x60\n" ++
        "<!-- filename: b.html -->\n\x60\x60\x60\n<p>\n\x60\x60\x60\n\n" ++
        "**\x60c.css\x60**\n\x60\x60\x60css\np\n\x60\x60\x60\nAgain:\n" ++
        "### a.js\n\x60\x60\x60\ng()\n\x60\x60\x60\nDone." ∧
      files (written mixedBlocks "\nDone.") =
        .ofList [("a.js", "g()"), ("b.html", "<p>"), ("c.css", "p")] := by
  have hafter : ¬ fenceMark <:+: "\nDone." := by decide +kernel
  have hfiles := (files_written mixedBlocks hafter).1
  exact ⟨hafter, by decide +kernel, hfiles.trans (by decide +kernel)⟩

end SitePreview.Response
