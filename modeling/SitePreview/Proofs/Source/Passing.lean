import SitePreview.Proofs.Source.LineStarts
import SitePreview.Proofs.Source.ModuleItem

/-! Scanning past an item. The edits for module statements look for a line that opens with one of
two words, so they pass over an item whose other lines open with none of these. -/

namespace SitePreview.Source

open Text CodePoint

variable {edit : Text → Option Edit} {e r s t u w : Text}

/-- The first word of a line, spaces and tabs in front of it skipped. -/
def firstWord (u : Text) : Text := (skipInline u).takeWhile isIdentifierPart

/-- The edit is made only where a module statement can start. -/
def Guarded (edit : Text → Option Edit) : Prop := ∀ u, ¬Opening u → edit u = none

section FirstWord

theorem firstWord_append (hne : w ≠ []) (hw : ∀ c ∈ w, c.isIdentifierPart = true)
    (ht : notAhead isIdentifierPart t = true) : firstWord (w ++ t) = w := by
  have hinline : notAhead isInlineBlank w = true := notAhead_of_all hw fun c hc => by
    cases h : c.isInlineBlank with
    | false => rfl
    | true => simp [isIdentifierPart_of_isInlineBlank h] at hc
  rw [firstWord, skipInline_of_notAhead (by rwa [notAhead_append hne]), takeWhile_append_stop hw ht]

theorem firstWord_of_notAhead (hinline : notAhead isInlineBlank t = true)
    (ht : notAhead isIdentifierPart t = true) : firstWord t = [] := by
  rw [firstWord, skipInline_of_notAhead hinline]
  exact takeWhile_append_stop (w := []) (by simp) ht

theorem firstWord_of_standsAlone {word : Text} (hword : ∀ c ∈ word, c.isIdentifierPart = true)
    (h : standsAlone word (skipInline u) = true) : firstWord u = word := by
  rw [standsAlone] at h
  split at h
  · exact absurd h (by simp)
  · next hafter => rw [firstWord, eq_append_of_after? hafter, takeWhile_append_stop hword rfl]
  · next c t hafter =>
    have hc : c.isIdentifierPart = false := by
      simp only [Bool.or_eq_true, decide_eq_true_eq] at h
      rcases h with (hblank | rfl) | rfl
      · exact isIdentifierPart_of_isBlank hblank
      · decide
      · decide
    rw [firstWord, eq_append_of_after? hafter, takeWhile_append_stop hword (by simp [hc])]

theorem not_opening_of_firstWord (himport : firstWord u ≠ "import")
    (hexport : firstWord u ≠ "export") : ¬Opening u := by
  rintro (h | h)
  · exact himport (firstWord_of_standsAlone (by decide) h)
  · exact hexport (firstWord_of_standsAlone (by decide) h)

theorem not_opening_of_notAhead (hinline : notAhead isInlineBlank t = true)
    (ht : notAhead isIdentifierPart t = true) : ¬Opening t := by
  have hfirst := firstWord_of_notAhead hinline ht
  exact not_opening_of_firstWord (by rw [hfirst]; decide) (by rw [hfirst]; decide)

theorem Identifier.not_opening (n : Identifier) (ht : notAhead isIdentifierPart t = true) :
    ¬Opening (n.text ++ t) := by
  have hfirst := firstWord_append n.ne_nil n.all_part ht
  exact not_opening_of_firstWord (by rw [hfirst]; exact n.ne_import)
    (by rw [hfirst]; exact n.ne_export)

/-- White space and commas in front of what opens no module statement open none. -/
theorem not_opening_separators (hw : ∀ c ∈ w, isSeparator c = true) (ht : ¬Opening t) :
    ¬Opening (w ++ t) := by
  induction w with
  | nil => exact ht
  | cons c w ih =>
    rw [List.forall_mem_cons] at hw
    by_cases hc : c.isInlineBlank = true
    · have hskip : skipInline (c :: w ++ t) = skipInline (w ++ t) := by
        rw [List.cons_append, skipInline, List.dropWhile_cons_of_pos hc, skipInline]
      rw [Opening, hskip]
      exact ih hw.2
    · refine not_opening_of_notAhead (by simpa using hc) ?_
      have hsep := hw.1
      simp only [isSeparator, Bool.or_eq_true, decide_eq_true_eq] at hsep
      rcases hsep with rfl | hblank
      · rfl
      · simp [isIdentifierPart_of_isBlank hblank]

end FirstWord

section Passing

theorem editFrom_cons_of_none {b : Bool} {c : CodePoint} (h : b = true → edit (c :: t) = none) :
    editFrom edit b (c :: t) = c :: editFrom edit (c = '\n') t := by
  rw [editFrom]
  cases b with
  | false => rfl
  | true => simp [h rfl]

theorem editFrom_eq_false (h : edit t = none) : editFrom edit true t = editFrom edit false t := by
  cases t with
  | nil => rw [editFrom, editFrom]
  | cons c t => rw [editFrom_cons_of_none fun _ => h, editFrom_cons_of_none (by simp)]

/-- Scanning within a line passes over `w` when `t` follows. -/
def Passes (edit : Text → Option Edit) (w t : Text) : Prop :=
  editFrom edit false (w ++ t) = w ++ editFrom edit false t

theorem Passes.append {v : Text} (hw : Passes edit w (v ++ t)) (hv : Passes edit v t) :
    Passes edit (w ++ v) t := by
  rw [Passes, List.append_assoc, hw, hv, List.append_assoc]

theorem passes_of_no_lineFeed (hw : ofChar '\n' ∉ w) (t : Text) : Passes edit w t := by
  induction w with
  | nil => rfl
  | cons c w ih =>
    have hc : ¬c = ofChar '\n' := (List.ne_of_not_mem_cons hw).symm
    rw [Passes, List.cons_append, editFrom_cons_of_none (by simp), decide_eq_false hc,
      ih (List.not_mem_of_not_mem_cons hw), List.cons_append]

/-- Scanning passes over white space and commas, line feeds among them, in front of what opens no
module statement. -/
theorem passes_separators (hedit : Guarded edit) (hw : ∀ c ∈ w, isSeparator c = true)
    (ht : ¬Opening t) : Passes edit w t := by
  have hpass (b : Bool) : editFrom edit b (w ++ t) = w ++ editFrom edit false t := by
    induction w generalizing b with
    | nil =>
      cases b with
      | false => rfl
      | true => exact editFrom_eq_false (hedit t ht)
    | cons c w ih =>
      have hopen : ¬Opening (c :: (w ++ t)) := not_opening_separators hw ht
      rw [List.forall_mem_cons] at hw
      rw [List.cons_append, editFrom_cons_of_none fun _ => hedit _ hopen, ih hw.2, List.cons_append]
  exact hpass false

end Passing

section Parts

theorem Blanks.all_separator (b : Blanks) : ∀ c ∈ b.text, isSeparator c = true := fun c hc => by
  simp [isSeparator, b.all_blank c hc]

theorem Blanks.notAhead (b : Blanks) (ht : notAhead isIdentifierPart t = true) :
    Text.notAhead isIdentifierPart (b.text ++ t) = true := by
  by_cases hb : b.text = []
  · rwa [hb]
  · rw [notAhead_append hb]
    exact notAhead_of_all b.all_blank fun _ => isIdentifierPart_of_isBlank

theorem Gap.notAhead (g : Gap) (t : Text) :
    Text.notAhead isIdentifierPart (g.text ++ t) = true := by
  rw [notAhead_append g.ne_nil]
  exact notAhead_of_all g.all_blank fun _ => isIdentifierPart_of_isBlank

theorem Indent.no_lineFeed (i : Indent) : ofChar '\n' ∉ i.text := fun h =>
  absurd (i.all_inline _ h) (by decide)

theorem Identifier.no_lineFeed (n : Identifier) : ofChar '\n' ∉ n.text := fun h =>
  absurd (n.all_part _ h) (by decide)

theorem Ending.no_lineFeed (e : Ending) : ofChar '\n' ∉ e.text := by
  have hsemicolon : ofChar '\n' ≠ ofChar ';' := by decide
  cases h : e.semicolon <;>
    simp [Ending.text, h, hsemicolon, e.before.no_lineFeed, e.after.no_lineFeed]

theorem Specifier.passes (s : Specifier) (t : Text) : Passes edit s.text t := by
  have hquote : ofChar '\n' ≠ s.quote := by
    rcases s.quote_eq with h | h <;> rw [h] <;> decide
  exact passes_of_no_lineFeed (by simp [Specifier.text, hquote, s.no_lineFeed]) t

theorem Specifier.not_opening (s : Specifier) (t : Text) : ¬Opening (s.text ++ t) := by
  rw [Specifier.text, List.cons_append]
  rcases s.quote_eq with h | h <;> rw [h] <;> exact not_opening_of_notAhead rfl rfl

/-- The word `from`, which may be a name as well. -/
def fromWord : Identifier := ⟨"from", by decide, by decide, by decide, by decide⟩

def asWord : Identifier := ⟨"as", by decide, by decide, by decide, by decide⟩

def typeWord : Identifier := ⟨"type", by decide, by decide, by decide, by decide⟩

theorem Specifier.notAhead (s : Specifier) (t : Text) :
    Text.notAhead isIdentifierPart (s.text ++ t) = true := by
  rw [Specifier.text, List.cons_append]
  rcases s.quote_eq with h | h <;> rw [h] <;> rfl

theorem Origin.not_opening (o : Origin) (t : Text) : ¬Opening (o.text ++ t) := by
  rw [Origin.text, List.append_assoc, List.append_assoc, List.append_assoc]
  exact fromWord.not_opening (o.blanks.notAhead (o.specifier.notAhead _))

theorem Origin.passes (hedit : Guarded edit) (o : Origin) (t : Text) : Passes edit o.text t := by
  refine (passes_of_no_lineFeed (by decide) _).append (.append ?_ (.append ?_ ?_))
  · refine passes_separators hedit o.blanks.all_separator ?_
    rw [List.append_assoc]
    exact o.specifier.not_opening _
  · exact o.specifier.passes _
  · exact passes_of_no_lineFeed o.ending.no_lineFeed t

theorem Alias.not_opening (a : Alias) (t : Text) : ¬Opening (a.text ++ t) := by
  rw [Alias.text, List.append_assoc, List.append_assoc]
  exact asWord.not_opening (a.before.notAhead _)

theorem Alias.passes (hedit : Guarded edit) (a : Alias) (ht : ¬Opening t) :
    Passes edit a.text t := by
  refine (passes_of_no_lineFeed (by decide) _).append (.append ?_ (.append ?_ ?_))
  · refine passes_separators hedit a.before.all_separator ?_
    rw [List.append_assoc]
    exact a.name.not_opening (a.after.notAhead t)
  · exact passes_of_no_lineFeed a.name.no_lineFeed _
  · exact passes_separators hedit a.after.all_separator ht

theorem notAhead_brace (t : Text) :
    notAhead isIdentifierPart (ofChar '\x7d' :: t) = true := rfl

theorem not_opening_brace (t : Text) : ¬Opening (ofChar '\x7d' :: t) :=
  not_opening_of_notAhead rfl rfl

theorem Separators.notAhead (s : Separators) (t : Text) :
    Text.notAhead isIdentifierPart (s.text ++ t) = true := by
  rw [notAhead_append s.ne_nil]
  refine notAhead_of_all s.all_separator fun c hc => ?_
  simp only [isSeparator, Bool.or_eq_true, decide_eq_true_eq] at hc
  rcases hc with rfl | hc
  · decide
  · exact isIdentifierPart_of_isBlank hc

/-- A list of names up to its closing brace opens no module statement, and neither does a line in
it. -/
theorem NameList.passes (hedit : Guarded edit) (l : NameList) (t : Text) :
    ¬Opening (l.text ++ ofChar '\x7d' :: t) ∧ Passes edit l.text (ofChar '\x7d' :: t) := by
  induction l with
  | none => exact ⟨not_opening_brace t, rfl⟩
  | one n => exact ⟨n.not_opening (notAhead_brace t), passes_of_no_lineFeed n.no_lineFeed _⟩
  | more n s l ih =>
    constructor
    · rw [NameList.text, List.append_assoc, List.append_assoc]
      exact n.not_opening (s.notAhead _)
    · refine (passes_of_no_lineFeed n.no_lineFeed _).append (.append ?_ ih.2)
      exact passes_separators hedit s.all_separator ih.1

theorem Braces.passes (hedit : Guarded edit) (b : Braces) (t : Text) : Passes edit b.text t := by
  have hbrace : ofChar '\n' ∉ [ofChar '\x7b'] := by decide
  have hopen := (b.names.passes hedit t).1
  have hbefore : Passes edit (b.before.elim [] Separators.text)
      (b.names.text ++ ofChar '\x7d' :: t) := by
    cases b.before with
    | none => rfl
    | some s => exact passes_separators hedit s.all_separator hopen
  have hend : Passes edit [ofChar '\x7d'] t := passes_of_no_lineFeed (by decide) t
  refine (passes_of_no_lineFeed hbrace _).append (.append ?_ (.append ?_ hend))
  · rwa [List.append_assoc]
  · exact (b.names.passes hedit t).2

end Parts

/-- `r` follows the end of a line at `e`, which is a line feed or the end of the text. -/
inductive LineEnd : Text → Text → Prop
  | feed (r : Text) : LineEnd (ofChar '\n' :: r) r
  | stop : LineEnd [] []

theorem LineEnd.notAhead {p : CodePoint → Bool} (hp : p (ofChar '\n') = false) (h : LineEnd e r) :
    Text.notAhead p e = true := by
  cases h with
  | feed => simp [hp]
  | stop => rfl

section Items

theorem Ending.notAhead (en : Ending) (he : LineEnd e r) :
    Text.notAhead isIdentifierPart (en.text ++ e) = true := by
  have hinline {i : Indent} {t : Text} (ht : Text.notAhead isIdentifierPart t = true) :
      Text.notAhead isIdentifierPart (i.text ++ t) = true := by
    by_cases hi : i.text = []
    · rwa [hi]
    · rw [notAhead_append hi]
      exact notAhead_of_all i.all_inline fun _ => isIdentifierPart_of_isInlineBlank
  have hafter := hinline (i := en.after) (he.notAhead (p := isIdentifierPart) (by decide))
  rw [Ending.text, List.append_assoc, List.append_assoc]
  refine hinline ?_
  cases en.semicolon with
  | false => exact hafter
  | true => rfl

/-- The words that start a declaration. -/
def declarationWords : List Text :=
  [ofString "function", ofString "async", ofString "class", ofString "const", ofString "let",
    ofString "var"]

theorem declarationWords_spec : ∀ w ∈ declarationWords, w ≠ [] ∧
    (∀ c ∈ w, c.isIdentifierPart = true) ∧
    w ∉ ([ofString "import", ofString "export", ofString "from"] : List Text) := by
  decide

/-- A declaration starts with one of the words. -/
theorem Keyword.text_eq (k : Keyword) (ht : notAhead isIdentifierPart t = true) :
    ∃ w u, k.text ++ t = w ++ u ∧ w ∈ declarationWords ∧ notAhead isIdentifierPart u = true := by
  have hword {w : Text} (hw : w ∈ declarationWords) : ∃ v u, w ++ t = v ++ u ∧
      v ∈ declarationWords ∧ notAhead isIdentifierPart u = true := ⟨w, t, rfl, hw, ht⟩
  cases k with
  | definition d =>
    cases d with
    | functionWord async =>
      cases async with
      | none => exact hword (by decide)
      | some gap =>
        refine ⟨ofString "async", gap.text ++ (ofString "function" ++ t), ?_, by decide,
          gap.notAhead _⟩
        simp [Keyword.text, Definition.text]
    | classWord => exact hword (by decide)
  | constWord => exact hword (by decide)
  | letWord => exact hword (by decide)
  | varWord => exact hword (by decide)

theorem Keyword.no_lineFeed (k : Keyword) : ofChar '\n' ∉ k.text := by
  cases k with
  | definition d =>
    cases d with
    | functionWord async =>
      cases async with
      | none => exact (by decide : ofChar '\n' ∉ ofString "function")
      | some gap =>
        have hfirst : ofChar '\n' ∉ ofString "async" := by decide
        have hlast : ofChar '\n' ∉ ofString "function" := by decide
        simp [Keyword.text, Definition.text, hfirst, hlast, gap.no_lineFeed]
    | classWord => exact (by decide : ofChar '\n' ∉ ofString "class")
  | constWord => exact (by decide : ofChar '\n' ∉ ofString "const")
  | letWord => exact (by decide : ofChar '\n' ∉ ofString "let")
  | varWord => exact (by decide : ofChar '\n' ∉ ofString "var")

theorem Body.notAhead (b : Body) (he : LineEnd e r) :
    Text.notAhead isIdentifierPart (b.text ++ e) = true := by
  rw [Body.text, List.append_assoc]
  by_cases h : b.rest = []
  · rw [h, List.nil_append]
    cases b.lines with
    | nil => exact he.notAhead (by decide)
    | cons => rfl
  · rw [notAhead_append h, b.ends_word]

theorem Keyword.not_opening (k : Keyword) (ht : notAhead isIdentifierPart t = true) :
    ¬Opening (k.text ++ t) := by
  obtain ⟨w, u, h, hw, hu⟩ := k.text_eq ht
  obtain ⟨hne, hpart, hword⟩ := declarationWords_spec w hw
  have hfirst := firstWord_append hne hpart hu
  rw [h]
  refine not_opening_of_firstWord ?_ ?_ <;> rw [hfirst] <;> rintro rfl <;> exact hword (by simp)

theorem skipInline_append (s : Text) (he : LineEnd e r) :
    skipInline (s ++ e) = skipInline s ++ e := by
  rw [skipInline, List.dropWhile_append, ← skipInline, ← skipInline]
  split
  · next h =>
    rw [skipInline_of_notAhead (he.notAhead (by decide)), List.isEmpty_iff.mp h, List.nil_append]
  · rfl

/-- A word does not come to stand alone because of what follows the line. -/
theorem standsAlone_of_append {word : Text} (hword : ofChar '\n' ∉ word) (he : LineEnd e r)
    (h : standsAlone word (s ++ e) = true) : standsAlone word s = true := by
  cases hafter : after? word s with
  | none =>
    have hnot : ¬word <+: s := by
      rintro ⟨t, rfl⟩
      simp at hafter
    have hall : ∀ c ∈ word, decide (c ≠ ofChar '\n') = true := fun c hc => by
      have : c ≠ ofChar '\n' := fun h => hword (h ▸ hc)
      simpa using this
    have hnone := after?_append_eq_none hall hnot (he.notAhead (by decide))
    simp [standsAlone, hnone] at h
  | some t =>
    cases t with
    | nil => simp [standsAlone, hafter]
    | cons c t =>
      rw [eq_append_of_after? hafter, List.append_assoc] at h
      simpa [standsAlone, hafter] using h

/-- A line opens no module statement because of what follows it. -/
theorem not_opening_append (hopen : ¬Opening s) (he : LineEnd e r) : ¬Opening (s ++ e) := by
  rw [Opening, skipInline_append s he]
  rintro (h | h)
  · exact hopen (.inl (standsAlone_of_append (by decide) he h))
  · exact hopen (.inr (standsAlone_of_append (by decide) he h))

/-- Scanning passes over the further lines of a declaration. -/
theorem passes_lines (hedit : Guarded edit) (ls : List InnerLine) (he : LineEnd e r) :
    Passes edit (ls.flatMap fun l => ofChar '\n' :: l.text) e := by
  induction ls with
  | nil => rfl
  | cons l ls ih =>
    obtain ⟨r', he'⟩ : ∃ r', LineEnd ((ls.flatMap fun l => ofChar '\n' :: l.text) ++ e) r' := by
      cases ls with
      | nil => exact ⟨r, he⟩
      | cons => exact ⟨_, .feed _⟩
    have hopen := not_opening_append l.not_opening he'
    have hfeed : Passes edit [ofChar '\n']
        (l.text ++ ((ls.flatMap fun l => ofChar '\n' :: l.text) ++ e)) :=
      passes_separators hedit (by decide) hopen
    rw [List.flatMap_cons]
    exact (Passes.append hfeed (passes_of_no_lineFeed l.no_lineFeed _)).append ih

theorem Body.passes (hedit : Guarded edit) (b : Body) (he : LineEnd e r) : Passes edit b.text e :=
  (passes_of_no_lineFeed b.no_lineFeed _).append (passes_lines hedit b.lines he)

theorem passes_declaration (hedit : Guarded edit) (k : Keyword) (b : Body) (he : LineEnd e r) :
    Passes edit (k.text ++ b.text) e :=
  (passes_of_no_lineFeed k.no_lineFeed _).append (b.passes hedit he)

theorem passes_type (hedit : Guarded edit) (type : Option Gap) (ht : ¬Opening t) :
    Passes edit (typeText type) t := by
  cases type with
  | none => rfl
  | some gap =>
    exact (passes_of_no_lineFeed (by decide) _).append
      (passes_separators hedit gap.all_separator ht)

theorem not_opening_type (type : Option Gap) (ht : ¬Opening t) : ¬Opening (typeText type ++ t) := by
  cases type with
  | none => exact ht
  | some gap =>
    rw [typeText, List.append_assoc]
    exact typeWord.not_opening (gap.notAhead t)

theorem Braces.not_opening (b : Braces) (t : Text) : ¬Opening (b.text ++ t) :=
  not_opening_of_notAhead rfl rfl

def defaultWord : Identifier := ⟨"default", by decide, by decide, by decide, by decide⟩

/-- What is exported opens no module statement of its own. -/
theorem Export.not_opening (x : Export) (he : LineEnd e r) : ¬Opening (x.text ++ e) := by
  rcases x with ⟨gap, name, o⟩ | ⟨type, b, ⟨blanks, o⟩ | en⟩ | ⟨gap, n, en⟩ | ⟨gap, d, body⟩ |
    ⟨k, body⟩
  · exact not_opening_of_notAhead rfl rfl
  · rw [Export.text, List.append_assoc, List.append_assoc]
    exact not_opening_type type (b.not_opening _)
  · rw [Export.text, List.append_assoc, List.append_assoc]
    exact not_opening_type type (b.not_opening _)
  · rw [Export.text, List.append_assoc, List.append_assoc]
    exact defaultWord.not_opening (gap.notAhead _)
  · rw [Export.text, List.append_assoc, List.append_assoc]
    exact defaultWord.not_opening (gap.notAhead _)
  · rw [Export.text, List.append_assoc]
    exact k.not_opening (body.notAhead he)

theorem Export.passes (hedit : Guarded edit) (x : Export) (he : LineEnd e r) :
    Passes edit x.text e := by
  have hstar : ofChar '\n' ∉ [ofChar '*'] := by decide
  have hdefault : ofChar '\n' ∉ ofString "default" := by decide
  rcases x with ⟨gap, name, o⟩ | ⟨type, b, ⟨blanks, o⟩ | en⟩ | ⟨gap, n, en⟩ | ⟨gap, d, body⟩ |
    ⟨k, body⟩
  · refine (passes_of_no_lineFeed hstar _).append (.append ?_ (.append ?_ (o.passes hedit e)))
    · refine passes_separators hedit gap.all_separator ?_
      cases name with
      | none => exact o.not_opening e
      | some a =>
        rw [List.append_assoc]
        exact a.not_opening _
    · cases name with
      | none => rfl
      | some a => exact a.passes hedit (o.not_opening e)
  · refine (passes_type hedit type ?_).append (.append (b.passes hedit _)
      (.append (passes_separators hedit blanks.all_separator (o.not_opening e))
        (o.passes hedit e)))
    rw [List.append_assoc]
    exact b.not_opening _
  · refine (passes_type hedit type ?_).append (.append (b.passes hedit _)
      (passes_of_no_lineFeed en.no_lineFeed e))
    rw [List.append_assoc]
    exact b.not_opening _
  · refine (passes_of_no_lineFeed hdefault _).append (.append
      (passes_separators hedit gap.all_separator ?_) (.append
        (passes_of_no_lineFeed n.name.no_lineFeed _) (passes_of_no_lineFeed en.no_lineFeed e)))
    rw [List.append_assoc]
    exact n.name.not_opening (en.notAhead he)
  · refine (passes_of_no_lineFeed hdefault _).append (.append
      (passes_separators hedit gap.all_separator ?_)
      (passes_declaration hedit (.definition d) body he))
    rw [List.append_assoc]
    exact Keyword.not_opening (.definition d) (body.notAhead he)
  · exact passes_declaration hedit k body he

theorem takeWhile_append_lineEnd (s : Text) (he : LineEnd e r) :
    (s ++ e).takeWhile isIdentifierPart = s.takeWhile isIdentifierPart := by
  have hnil : e.takeWhile isIdentifierPart = [] :=
    takeWhile_append_stop (w := []) (by simp) (he.notAhead (by decide))
  rw [List.takeWhile_append, hnil]
  split
  · next h => rw [List.append_nil, (List.takeWhile_prefix _).eq_of_length h]
  · rfl

/-- The first word of a line is its first token, or there is none. -/
theorem firstWord_eq_firstToken (s : Text) (he : LineEnd e r) :
    firstWord (s ++ e) = [] ∨ firstWord (s ++ e) = firstToken s := by
  have hsplit := List.takeWhile_append_dropWhile (p := isInlineBlank) (l := s)
  have hblank : ∀ c ∈ s.takeWhile isInlineBlank, c.isBlank = true := fun c hc =>
    isBlank_of_isInlineBlank (List.all_eq_true.mp List.all_takeWhile c hc)
  rw [firstWord, skipInline_append s he, takeWhile_append_lineEnd _ he, skipInline]
  cases hrest : notAhead CodePoint.isBlank (s.dropWhile isInlineBlank) with
  | true =>
    have hskip := dropWhile_append_stop hblank hrest
    rw [hsplit] at hskip
    exact .inr (by rw [firstToken, skipBlanks, hskip])
  | false =>
    generalize s.dropWhile isInlineBlank = u at hrest
    cases u with
    | nil => exact .inl rfl
    | cons c u =>
      have hc : c.isBlank = true := by simpa using hrest
      exact .inl (List.takeWhile_cons_of_neg (by simp [isIdentifierPart_of_isBlank hc]))

theorem Line.not_opening (l : Line) (he : LineEnd e r) : ¬Opening (l.text ++ e) := by
  rcases firstWord_eq_firstToken l.text he with h | h
  · exact not_opening_of_firstWord (by rw [h]; decide) (by rw [h]; decide)
  · refine not_opening_of_firstWord ?_ ?_ <;> rw [h] <;> intro hw <;>
      exact l.firstToken_ne (by simp [hw])

end Items

end SitePreview.Source
