import SitePreview.Proofs.Source.Passing

/-! What the recognisers of module statements make of an item: each knows the items of its own kind
up to the end of their last line, and none that is left when its turn comes. -/

namespace SitePreview.Source

open Text CodePoint

variable {e r t u : Text}

section Guards

theorem standsAlone_of_wordAndBlanks? {word s : Text} (h : wordAndBlanks? word s = some t) :
    standsAlone word s = true := by
  obtain ⟨v, hv, hblank⟩ := Option.bind_eq_some_iff.mp h
  cases v with
  | nil => simp [standsAlone, hv]
  | cons c v =>
    simp only [skipSomeBlanks?, Option.ite_none_right_eq_some] at hblank
    simp [standsAlone, hv, hblank.1]

/-- A recogniser that reads one of the two words and white space finds nothing elsewhere. -/
theorem eq_none_of_word {word : Text} (hword : word = "import" ∨ word = "export")
    (statement : Text → Option Text) {rest : Text → Option Text}
    (h : ∀ s, statement s = (wordAndBlanks? word (skipInline s)).bind rest)
    (hu : ¬Opening u) : statement u = none := by
  rw [h, Option.bind_eq_none_iff]
  intro t ht
  have halone := standsAlone_of_wordAndBlanks? ht
  rcases hword with rfl | rfl
  · exact absurd (.inl halone) hu
  · exact absurd (.inr halone) hu

theorem importFrom?_eq_none (hu : ¬Opening u) : importFrom? u = none :=
  eq_none_of_word (.inl rfl) importFrom? (fun _ => rfl) hu

theorem exportStar?_eq_none (hu : ¬Opening u) : exportStar? u = none :=
  eq_none_of_word (.inr rfl) exportStar? (fun _ => rfl) hu

theorem exportList?_eq_none (hu : ¬Opening u) : exportList? u = none :=
  eq_none_of_word (.inr rfl) exportList? (fun _ => rfl) hu

theorem defaultExport?_eq_none (hu : ¬Opening u) : defaultExport? (skipInline u) = none :=
  eq_none_of_word (.inr rfl) (fun u => defaultExport? (skipInline u)) (fun _ => rfl) hu

theorem defaultExportName?_eq_none (hu : ¬Opening u) : defaultExportName? u = none :=
  eq_none_of_word (.inr rfl) defaultExportName? (fun _ => rfl) hu

theorem namedExport?_eq_none (hu : ¬Opening u) : namedExport? (skipInline u) = none :=
  eq_none_of_word (.inr rfl) (fun u => namedExport? (skipInline u)) (fun _ => rfl) hu

/-- A module name with or without white space in front of it starts with a blank or a quote. -/
theorem head_of_moduleSpecifier? (h : moduleSpecifier? (skipBlanks t) = some r) :
    ∃ c s, t = c :: s ∧ (c.isBlank = true ∨ c = '"' ∨ c = '\'') := by
  cases t with
  | nil => simp [skipBlanks, moduleSpecifier?] at h
  | cons c t =>
    by_cases hc : c.isBlank = true
    · exact ⟨c, t, rfl, .inl hc⟩
    · rw [skipBlanks_of_notAhead (by simpa using hc), moduleSpecifier?,
        Option.ite_none_right_eq_some] at h
      exact ⟨c, t, rfl, .inr h.1⟩

theorem standsAlone_of_moduleSpecifier? {word s : Text} (hafter : after? word s = some t)
    (h : moduleSpecifier? (skipBlanks t) = some r) : standsAlone word s = true := by
  obtain ⟨c, v, rfl, hc⟩ := head_of_moduleSpecifier? h
  rcases hc with hc | rfl | rfl
  · simp [standsAlone, hafter, hc]
  · simp [standsAlone, hafter]
  · simp [standsAlone, hafter]

theorem importEffect?_eq_none (hu : ¬Opening u) : importEffect? u = none := by
  rw [importEffect?, Option.bind_eq_bind, Option.bind_eq_none_iff]
  intro t ht
  rw [Option.bind_eq_none_iff]
  intro v hv
  exact absurd (.inl (standsAlone_of_moduleSpecifier? ht hv)) hu

/-- What follows starts with the word `from`. -/
theorem firstToken_of_fromClause? (h : fromClause? u = some r) : firstToken u = "from" := by
  obtain ⟨t, ht, h⟩ := Option.bind_eq_some_iff.mp h
  have hahead : notAhead isIdentifierPart t = true := by
    obtain ⟨c, v, rfl, hc⟩ := head_of_moduleSpecifier? h
    rcases hc with hc | rfl | rfl
    · simp [isIdentifierPart_of_isBlank hc]
    · rfl
    · rfl
  rw [firstToken, eq_append_of_after? ht, takeWhile_append_stop (by decide) hahead]

end Guards

section Parts

theorem skipInline_indent (i : Indent) (ht : notAhead isInlineBlank t = true) :
    skipInline (i.text ++ t) = t := dropWhile_append_stop i.all_inline ht

theorem skipBlanks_blanks (b : Blanks) (ht : notAhead CodePoint.isBlank t = true) :
    skipBlanks (b.text ++ t) = t := dropWhile_append_stop b.all_blank ht

theorem wordAndBlanks?_gap (word : Text) (g : Gap) (ht : notAhead CodePoint.isBlank t = true) :
    wordAndBlanks? word (word ++ (g.text ++ t)) = some t :=
  wordAndBlanks?_append word g.ne_nil g.all_blank ht

/-- The end of a statement is read up to the next line. -/
theorem statementTail?_ending (en : Ending) (he : LineEnd e r) :
    statementTail? (en.text ++ e) = some r := by
  have hinline : notAhead isInlineBlank e = true := he.notAhead (by decide)
  have hskip : skipInline (dropPrefix ";" (skipInline (en.text ++ e))) = e := by
    rw [Ending.text]
    cases en.semicolon with
    | true =>
      rw [List.append_assoc, skipInline_indent en.before rfl]
      exact skipInline_indent en.after hinline
    | false =>
      have hall : ∀ c ∈ en.before.text ++ en.after.text, c.isInlineBlank = true := by
        simpa [or_imp, forall_and] using ⟨en.before.all_inline, en.after.all_inline⟩
      have hskip : skipInline (en.before.text ++ en.after.text ++ e) = e :=
        dropWhile_append_stop hall hinline
      have hdrop : dropPrefix ";" e = e := by cases he <;> rfl
      rw [if_neg (by simp), List.nil_append, hskip, hdrop, skipInline_of_notAhead hinline]
  rw [statementTail?, hskip]
  cases he <;> rfl

theorem moduleSpecifier?_append (s : Specifier) (t : Text) :
    moduleSpecifier? (s.text ++ t) = some t := by
  have hall : ∀ c ∈ s.name, (c ≠ s.quote && c ≠ ofChar '\n') = true := fun c hc => by
    have hquote : c ≠ s.quote := fun h => s.no_quote (h ▸ hc)
    have hfeed : c ≠ ofChar '\n' := fun h => s.no_lineFeed (h ▸ hc)
    simp [hquote, hfeed]
  have hdrop : (s.name ++ (s.quote :: t)).dropWhile
      (fun c : CodePoint => c ≠ s.quote && c ≠ ofChar '\n') = s.quote :: t :=
    dropWhile_append_stop hall (by simp)
  rw [Specifier.text, List.cons_append, List.append_assoc, moduleSpecifier?, if_pos s.quote_eq]
  exact (congrArg (after? [s.quote]) hdrop).trans (after?_append [s.quote] t)

theorem Specifier.notAhead_blank (s : Specifier) (t : Text) :
    Text.notAhead CodePoint.isBlank (s.text ++ t) = true := by
  rw [Specifier.text, List.cons_append]
  rcases s.quote_eq with h | h <;> rw [h] <;> rfl

theorem fromClause?_origin (b : Blanks) (o : Origin) (e : Text) :
    fromClause? (b.text ++ (o.text ++ e)) = some (o.ending.text ++ e) := by
  have hfrom : after? "from" (skipBlanks (b.text ++ (o.text ++ e))) =
      some (o.blanks.text ++ (o.specifier.text ++ (o.ending.text ++ e))) := by
    rw [skipBlanks_blanks b rfl, Origin.text]
    simp only [List.append_assoc]
    exact after?_append _ _
  rw [fromClause?, hfrom, Option.bind_eq_bind, Option.bind_some,
    skipBlanks_blanks o.blanks (o.specifier.notAhead_blank _), moduleSpecifier?_append]

theorem NameList.no_brace (l : NameList) : ofChar '\x7d' ∉ l.text := by
  induction l with
  | none => exact List.not_mem_nil
  | one n => exact fun h => absurd (n.all_part _ h) (by decide)
  | more n s l ih =>
    have hn : ofChar '\x7d' ∉ n.text := fun h => absurd (n.all_part _ h) (by decide)
    have hs : ofChar '\x7d' ∉ s.text := fun h => absurd (s.all_separator _ h) (by decide)
    simp [NameList.text, hn, hs, ih]

theorem braceList?_append (b : Braces) (t : Text) : braceList? (b.text ++ t) = some t := by
  have hbefore : ofChar '\x7d' ∉ b.before.elim [] Separators.text := by
    cases b.before with
    | none => exact List.not_mem_nil
    | some s => exact fun h => absurd (s.all_separator _ h) (by decide)
  have hall : ∀ c ∈ b.before.elim [] Separators.text ++ b.names.text,
      decide (c ≠ ofChar '\x7d') = true := fun c hc => by
    have : c ≠ ofChar '\x7d' := fun h => by
      rcases List.mem_append.mp (h ▸ hc) with h | h
      · exact hbefore h
      · exact b.names.no_brace h
    simpa using this
  have hdrop : (b.before.elim [] Separators.text ++ b.names.text ++ (ofChar '\x7d' :: t)).dropWhile
      (fun c : CodePoint => c ≠ ofChar '\x7d') = ofChar '\x7d' :: t :=
    dropWhile_append_stop hall (by simp)
  have hopen : after? [ofChar '\x7b'] (b.text ++ t) =
      some (b.before.elim [] Separators.text ++ b.names.text ++ (ofChar '\x7d' :: t)) := by
    rw [Braces.text]
    simp [after?]
  rw [braceList?, hopen, Option.bind_eq_bind, Option.bind_some, hdrop]
  exact after?_append [ofChar '\x7d'] t

end Parts

section Imports

theorem isImportClause_of_isIdentifierPart {c : CodePoint} (h : c.isIdentifierPart = true) :
    isImportClause c = true := by
  simp [isImportClause, h]

theorem isImportClause_of_isBlank {c : CodePoint} (h : c.isBlank = true) :
    isImportClause c = true := by
  simp [isImportClause, h]

theorem Blanks.all_clause (b : Blanks) : ∀ c ∈ b.text, isImportClause c = true := fun c hc =>
  isImportClause_of_isBlank (b.all_blank c hc)

theorem Identifier.all_clause (n : Identifier) : ∀ c ∈ n.text, isImportClause c = true :=
  fun c hc => isImportClause_of_isIdentifierPart (n.all_part c hc)

/-- What an import clause holds in front of its braces, or in front of `from` if it has none. -/
def ImportClause.words : ImportClause → Text
  | name n gap => n.text ++ gap.text
  | star leading names gap => leading.elim [] LeadingName.text ++ (names.text ++ gap.text)
  | list leading _ _ => leading.elim [] LeadingName.text

theorem LeadingName.all_clause (n : LeadingName) : ∀ c ∈ n.text, isImportClause c = true := by
  simp only [LeadingName.text, List.forall_mem_append, List.forall_mem_cons]
  exact ⟨n.name.all_clause, n.before.all_clause, by decide, n.after.all_clause⟩

theorem Namespace.all_clause (n : Namespace) : ∀ c ∈ n.text, isImportClause c = true := by
  simp only [Namespace.text, List.forall_mem_append, List.forall_mem_cons]
  exact ⟨by decide, n.blanks.all_clause, by decide, n.gap.all_clause, n.name.all_clause⟩

theorem typeText_all_clause (type : Option Gap) : ∀ c ∈ typeText type, isImportClause c = true := by
  cases type with
  | none => simp [typeText]
  | some gap =>
    simp only [typeText, List.forall_mem_append]
    exact ⟨by decide, gap.all_clause⟩

theorem ImportClause.all_clause (x : ImportClause) : ∀ c ∈ x.words, isImportClause c = true := by
  have hleading (n : Option LeadingName) :
      ∀ c ∈ n.elim [] LeadingName.text, isImportClause c = true := by
    cases n with
    | none => simp
    | some n => exact n.all_clause
  cases x with
  | name n gap =>
    simp only [words, List.forall_mem_append]
    exact ⟨n.all_clause, gap.all_clause⟩
  | star leading names gap =>
    simp only [words, List.forall_mem_append]
    exact ⟨hleading leading, names.all_clause, gap.all_clause⟩
  | list leading names blanks => exact hleading leading

/-- A text whose first code point can start the names of an import. -/
def StartsNames (t : Text) : Prop :=
  ∃ c s, t = c :: s ∧ (c.isIdentifierPart || c = ofChar '*') = true

theorem StartsNames.append (h : StartsNames t) (u : Text) : StartsNames (t ++ u) := by
  obtain ⟨c, s, rfl, hc⟩ := h
  exact ⟨c, s ++ u, rfl, hc⟩

theorem StartsNames.notAhead (h : StartsNames t) : notAhead CodePoint.isBlank t = true := by
  obtain ⟨c, s, rfl, hc⟩ := h
  simp only [Bool.or_eq_true, decide_eq_true_eq] at hc
  rcases hc with hc | rfl
  · simp [isBlank_of_isIdentifierPart hc]
  · rfl

theorem Identifier.startsNames (n : Identifier) : StartsNames n.text := by
  obtain ⟨c, s, hcs⟩ := List.exists_cons_of_ne_nil n.ne_nil
  exact ⟨c, s, hcs, by simp [n.all_part c (by simp [hcs])]⟩

theorem startsNames_leading {n : Option LeadingName} (h : StartsNames t) :
    StartsNames (n.elim [] LeadingName.text ++ t) := by
  cases n with
  | none => exact h
  | some n => exact (n.name.startsNames.append _).append t

theorem startsNames_type (type : Option Gap) (h : StartsNames t) :
    StartsNames (typeText type ++ t) := by
  cases type with
  | none => exact h
  | some gap => exact ⟨ofChar 't', _, rfl, by decide⟩

/-- Names with the word `from` behind them are told from names without. -/
theorem endsWithFrom_append (h : StartsNames t) (b : Blanks) :
    endsWithFrom (t ++ (ofString "from" ++ b.text)) = true := by
  have hbare : dropRightWhile CodePoint.isBlank (t ++ (ofString "from" ++ b.text)) =
      t ++ ofString "from" := by
    have hreverse : (t ++ (ofString "from" ++ b.text)).reverse =
        b.text.reverse ++ (t ++ ofString "from").reverse := by simp
    have hall : ∀ c ∈ b.text.reverse, c.isBlank = true := by simpa using b.all_blank
    have hstop : notAhead CodePoint.isBlank (t ++ ofString "from").reverse = true := by
      rw [List.reverse_append]
      rfl
    rw [dropRightWhile, hreverse, dropWhile_append_stop hall hstop, List.reverse_reverse]
  have hends : endsWith (t ++ ofString "from") "from" = true :=
    List.isSuffixOf_iff_suffix.mpr (List.suffix_append _ _)
  have hlen : (t ++ ofString "from").length - 4 = t.length := by
    rw [List.length_append, show (ofString "from").length = 4 from rfl, Nat.add_sub_cancel]
  obtain ⟨c, s, rfl, hc⟩ := h
  rw [endsWithFrom]
  simp only [hbare, hends, hlen, List.take_left, hc, Bool.and_self]

/-- Names, `from` and a module name behind `import` are recognised. -/
theorem importFrom?_names {w : Text} (i : Indent) (g : Gap) (hw : StartsNames w)
    (hall : ∀ c ∈ w, isImportClause c = true) (o : Origin) (he : LineEnd e r) :
    importFrom? (i.text ++ (ofString "import" ++ (g.text ++ (w ++ (o.text ++ e))))) = some r := by
  have hfrom : ∀ c ∈ w ++ (ofString "from" ++ o.blanks.text), isImportClause c = true := by
    simp only [List.forall_mem_append]
    exact ⟨hall, by decide, o.blanks.all_clause⟩
  have hsplit : w ++ (o.text ++ e) = w ++ (ofString "from" ++ o.blanks.text) ++
      (o.specifier.text ++ (o.ending.text ++ e)) := by
    simp [Origin.text]
  obtain ⟨q, v, hv, hq⟩ : ∃ q v, o.specifier.text ++ (o.ending.text ++ e) = q :: v ∧
      (q = '"' ∨ q = '\'') := ⟨_, _, rfl, o.specifier.quote_eq⟩
  have hstop : notAhead isImportClause (q :: v) = true := by
    rcases hq with rfl | rfl <;> rfl
  have hne : q ≠ ofChar '\x7b' := by
    rcases hq with rfl | rfl <;> decide
  rw [importFrom?, skipInline_indent i rfl, wordAndBlanks?_gap _ g (hw.append _).notAhead, hsplit,
    hv, Option.bind_eq_bind, Option.bind_some, dropWhile_append_stop hfrom hstop,
    takeWhile_append_stop hfrom hstop]
  simp only [hne, if_false, endsWithFrom_append hw, if_true]
  rw [← hv, moduleSpecifier?_append, Option.bind_some, statementTail?_ending o.ending he]

/-- Names in braces, `from` and a module name behind `import` are recognised, whatever names stand
in front of the braces. -/
theorem importFrom?_braces {w : Text} (i : Indent) (g : Gap)
    (hw : ∀ c ∈ w, isImportClause c = true) (hstart : w = [] ∨ StartsNames w) (b : Braces)
    (blanks : Blanks) (o : Origin) (he : LineEnd e r) :
    importFrom? (i.text ++ (ofString "import" ++
      (g.text ++ (w ++ (b.text ++ (blanks.text ++ (o.text ++ e))))))) = some r := by
  have hblank : notAhead CodePoint.isBlank (w ++ (b.text ++ (blanks.text ++ (o.text ++ e)))) =
      true := by
    rcases hstart with rfl | hw
    · rfl
    · exact (hw.append _).notAhead
  obtain ⟨v, hv⟩ : ∃ v, b.text ++ (blanks.text ++ (o.text ++ e)) = ofChar '\x7b' :: v := ⟨_, rfl⟩
  have hstop : notAhead isImportClause (ofChar '\x7b' :: v) = true := rfl
  rw [importFrom?, skipInline_indent i rfl, wordAndBlanks?_gap _ g hblank, hv, Option.bind_eq_bind,
    Option.bind_some, dropWhile_append_stop hw hstop]
  simp only [if_true]
  rw [← hv, braceList?_append, Option.bind_some, fromClause?_origin, Option.bind_some,
    statementTail?_ending o.ending he]

theorem importFrom?_item (i : Indent) (g : Gap) (type : Option Gap) (x : ImportClause) (o : Origin)
    (he : LineEnd e r) :
    importFrom? ((Item.importFrom i g type x o).text ++ e) = some r := by
  have hall : ∀ c ∈ typeText type ++ x.words, isImportClause c = true :=
    List.forall_mem_append.mpr ⟨typeText_all_clause type, x.all_clause⟩
  cases x with
  | name n gap =>
    have hw := startsNames_type type (n.startsNames.append gap.text)
    have h := importFrom?_names i g hw hall o he
    simpa [Item.text, ImportClause.text] using h
  | star leading names gap =>
    have hstar : StartsNames (names.text ++ gap.text) := ⟨ofChar '*', _, rfl, by decide⟩
    have hw := startsNames_type type (startsNames_leading (n := leading) hstar)
    have h := importFrom?_names i g hw hall o he
    simpa [Item.text, ImportClause.text] using h
  | list leading names blanks =>
    have hw : typeText type ++ leading.elim [] LeadingName.text = [] ∨
        StartsNames (typeText type ++ leading.elim [] LeadingName.text) := by
      cases leading with
      | some n => exact .inr (startsNames_type type (n.name.startsNames.append _))
      | none =>
        cases type with
        | none => exact .inl rfl
        | some gap => exact .inr ⟨ofChar 't', _, rfl, by decide⟩
    have h := importFrom?_braces i g hall hw names blanks o he
    simpa [Item.text, ImportClause.text, ImportClause.words] using h

theorem importEffect?_item (i : Indent) (b : Blanks) (s : Specifier) (en : Ending)
    (he : LineEnd e r) : importEffect? ((Item.importEffect i b s en).text ++ e) = some r := by
  simp only [Item.text, List.append_assoc]
  rw [importEffect?, skipInline_indent i rfl, after?_append, Option.bind_eq_bind, Option.bind_some,
    skipBlanks_blanks b (s.notAhead_blank _), moduleSpecifier?_append, Option.bind_some,
    statementTail?_ending en he]

/-- An import for its effects names nothing. -/
theorem importFrom?_importEffect (i : Indent) (b : Blanks) (s : Specifier) (en : Ending)
    (e : Text) : importFrom? ((Item.importEffect i b s en).text ++ e) = none := by
  obtain ⟨q, v, hv, hq⟩ : ∃ q v, s.text ++ (en.text ++ e) = q :: v ∧
      (q = ofChar '"' ∨ q = ofChar '\'') := ⟨_, _, rfl, s.quote_eq⟩
  simp only [Item.text, List.append_assoc]
  have hblank : notAhead CodePoint.isBlank (q :: v) = true := by
    rcases hq with rfl | rfl <;> rfl
  rw [importFrom?, skipInline_indent i rfl, hv]
  by_cases hb : b.text = []
  · rw [hb, List.nil_append, wordAndBlanks?, after?_append]
    rcases hq with rfl | rfl <;> rfl
  · rw [wordAndBlanks?_append _ hb b.all_blank hblank]
    rcases hq with rfl | rfl <;> rfl

/-- Nothing that starts with `export` is an import. -/
theorem importFrom?_exported (i : Indent) (g : Gap) (x : Export) (e : Text) :
    importFrom? ((Item.exported i g x).text ++ e) = none := by
  rw [Item.text, List.append_assoc, List.append_assoc, importFrom?, skipInline_indent i rfl]
  rfl

theorem importEffect?_exported (i : Indent) (g : Gap) (x : Export) (e : Text) :
    importEffect? ((Item.exported i g x).text ++ e) = none := by
  rw [Item.text, List.append_assoc, List.append_assoc, importEffect?, skipInline_indent i rfl]
  rfl

end Imports

section Exports

theorem DefaultName.not_prefix (n : DefaultName) {word : Text}
    (hword : word ∈ ([ofString "function", ofString "class", ofString "async"] : List Text))
    (ht : notAhead isIdentifierPart t = true) : after? word (n.name.text ++ t) = none := by
  refine after?_append_eq_none (p := isIdentifierPart) ?_ (n.not_keyword word hword) ht
  revert word
  decide

theorem Body.wordEnds (b : Body) (he : LineEnd e r) : Text.wordEnds (b.text ++ e) = true := by
  have hahead := b.notAhead he
  generalize b.text ++ e = u at hahead
  cases u with
  | nil => rfl
  | cons c u =>
    simp only [notAhead_cons, isIdentifierPart, Bool.not_or, Bool.and_eq_true] at hahead
    exact hahead.1

theorem Keyword.notAhead_blank (k : Keyword) (ht : notAhead isIdentifierPart t = true) :
    notAhead CodePoint.isBlank (k.text ++ t) = true := by
  obtain ⟨w, u, h, hw, _⟩ := k.text_eq ht
  obtain ⟨hne, hpart, _⟩ := declarationWords_spec w hw
  rw [h, notAhead_append hne]
  exact notAhead_of_all hpart fun _ => isBlank_of_isIdentifierPart

theorem Export.notAhead_blank (x : Export) (he : LineEnd e r) :
    notAhead CodePoint.isBlank (x.text ++ e) = true := by
  cases x with
  | all => rfl
  | list type names origin =>
    cases origin <;> cases type <;> rfl
  | defaultName => rfl
  | default => rfl
  | declaration k b =>
    rw [Export.text, List.append_assoc]
    exact k.notAhead_blank (b.notAhead he)

/-- The export recognisers look at what stands behind `export`. -/
theorem wordAndBlanks?_export (i : Indent) (g : Gap) (x : Export) (he : LineEnd e r) :
    wordAndBlanks? "export" (skipInline ((Item.exported i g x).text ++ e)) =
      some (x.text ++ e) := by
  simp only [Item.text, List.append_assoc]
  rw [skipInline_indent i rfl, wordAndBlanks?_gap _ g (x.notAhead_blank he)]

theorem skipSomeBlanks?_gap (g : Gap) (ht : notAhead CodePoint.isBlank t = true) :
    skipSomeBlanks? (g.text ++ t) = some t := skipSomeBlanks?_append g.ne_nil g.all_blank ht

theorem Identifier.notAhead_blank (n : Identifier) (t : Text) :
    Text.notAhead CodePoint.isBlank (n.text ++ t) = true := by
  rw [notAhead_append n.ne_nil]
  exact notAhead_of_all n.all_part fun _ => isBlank_of_isIdentifierPart

theorem exportStar?_item (i : Indent) (g gap : Gap) (name : Option Alias) (o : Origin)
    (he : LineEnd e r) :
    exportStar? ((Item.exported i g (.all gap name o)).text ++ e) = some r := by
  have hfrom : fromClause? (o.text ++ e) = some (o.ending.text ++ e) :=
    fromClause?_origin ⟨[], by simp⟩ o e
  have hstar (t : Text) : after? "*" (ofChar '*' :: t) = some t := after?_append [ofChar '*'] t
  rw [exportStar?, wordAndBlanks?_export _ _ _ he, Option.bind_eq_bind, Option.bind_some]
  simp only [Export.text, List.cons_append, List.append_assoc, hstar, Option.bind_some]
  cases name with
  | none =>
    have has : wordAndBlanks? "as" (o.text ++ e) = none := rfl
    rw [Option.elim_none, List.nil_append, skipSomeBlanks?_gap gap rfl]
    simp only [has, Option.bind_none, Option.getD_none, Option.bind_some, hfrom]
    exact statementTail?_ending o.ending he
  | some a =>
    have has : wordAndBlanks? "as" (a.text ++ (o.text ++ e)) =
        some (a.name.text ++ (a.after.text ++ (o.text ++ e))) := by
      simp only [Alias.text, List.append_assoc]
      exact wordAndBlanks?_gap _ a.before (a.name.notAhead_blank _)
    have hstop := a.after.notAhead (o.text ++ e)
    rw [Option.elim_some, skipSomeBlanks?_gap gap rfl]
    simp only [has, Option.bind_some, takeWhile_append_stop a.name.all_part hstop,
      dropWhile_append_stop a.name.all_part hstop, a.name.ne_nil, if_false,
      skipSomeBlanks?_gap a.after (t := o.text ++ e) rfl, Option.getD_some, hfrom]
    exact statementTail?_ending o.ending he

/-- A list without `from` does not take one from what follows it. -/
theorem fromClause?_ending (en : Ending) (hfree : fromClause? e = none) :
    fromClause? (en.text ++ e) = none := by
  have hbefore (t : Text) : skipBlanks (en.before.text ++ t) = skipBlanks t :=
    List.dropWhile_append_of_pos fun c hc => isBlank_of_isInlineBlank (en.before.all_inline c hc)
  have hafter (t : Text) : skipBlanks (en.after.text ++ t) = skipBlanks t :=
    List.dropWhile_append_of_pos fun c hc => isBlank_of_isInlineBlank (en.after.all_inline c hc)
  rw [fromClause?, Ending.text, List.append_assoc, List.append_assoc, hbefore]
  cases en.semicolon with
  | true => rfl
  | false =>
    rw [if_neg (by simp), List.nil_append, hafter]
    exact hfree

theorem exportList?_item (i : Indent) (g : Gap) (type : Option Gap) (b : Braces)
    (origin : Blanks × Origin ⊕ Ending) (he : LineEnd e r) (hfree : fromClause? e = none) :
    exportList? ((Item.exported i g (.list type b origin)).text ++ e) = some r := by
  have htype (t : Text) : (wordAndBlanks? "type" (typeText type ++ (b.text ++ t))).getD
      (typeText type ++ (b.text ++ t)) = b.text ++ t := by
    cases type with
    | none => rfl
    | some gap =>
      rw [typeText, List.append_assoc, wordAndBlanks?_gap _ gap rfl, Option.getD_some]
  rw [exportList?, wordAndBlanks?_export _ _ _ he, Option.bind_eq_bind, Option.bind_some]
  cases origin with
  | inl origin =>
    obtain ⟨blanks, o⟩ := origin
    simp only [Export.text, List.append_assoc, htype, braceList?_append, fromClause?_origin,
      statementTail?_ending o.ending he, Option.bind_some, Option.orElse_some]
  | inr en =>
    simp only [Export.text, List.append_assoc, htype, braceList?_append,
      fromClause?_ending en hfree, statementTail?_ending en he, Option.bind_some,
      Option.bind_none, Option.orElse_none]

theorem defaultExportName?_item (i : Indent) (g gap : Gap) (n : DefaultName) (en : Ending)
    (he : LineEnd e r) :
    defaultExportName? ((Item.exported i g (.defaultName gap n en)).text ++ e) = some r := by
  have hgap := wordAndBlanks?_gap "default" gap (n.name.notAhead_blank (en.text ++ e))
  rw [defaultExportName?, wordAndBlanks?_export _ _ _ he, Option.bind_eq_bind, Option.bind_some]
  simp only [Export.text, List.append_assoc, hgap, Option.bind_some]
  obtain ⟨c, s, hname, hc⟩ := n.starts
  have hs : ∀ c ∈ s, c.isIdentifierPart = true := fun d hd =>
    n.name.all_part d (hname ▸ List.mem_cons_of_mem c hd)
  simp only [hname, List.cons_append, hc, if_true, dropWhile_append_stop hs (en.notAhead he)]
  exact statementTail?_ending en he

/-- A default export of a name is none of a function or a class. -/
theorem defaultExport?_defaultName (i : Indent) (g gap : Gap) (n : DefaultName) (en : Ending)
    (he : LineEnd e r) :
    defaultExport? (skipInline ((Item.exported i g (.defaultName gap n en)).text ++ e)) = none := by
  have hgap := wordAndBlanks?_gap "default" gap (n.name.notAhead_blank (en.text ++ e))
  have hnot (word : Text)
      (hword : word ∈ ([ofString "function", ofString "class", ofString "async"] : List Text)) :
      after? word (n.name.text ++ (en.text ++ e)) = none := n.not_prefix hword (en.notAhead he)
  have hasync := wordAndBlanks?_eq_none (hnot (ofString "async") (by simp))
  have hfunction := hnot (ofString "function") (by simp)
  have hclass := hnot (ofString "class") (by simp)
  rw [defaultExport?, wordAndBlanks?_export _ _ _ he, Option.bind_eq_bind, Option.bind_some]
  simp only [Export.text, List.append_assoc, hgap, Option.bind_some, startsFunction,
    startsDeclaration, hasync, Option.getD_none, List.any_cons, List.any_nil, hfunction, hclass,
    Option.map_none]
  rfl

theorem startsDeclaration_append {word : Text} {words : List Text} (hword : word ∈ words)
    (b : Body) (he : LineEnd e r) :
    startsDeclaration words (word ++ (b.text ++ e)) = true :=
  List.any_eq_true.mpr ⟨word, hword, by simp [b.wordEnds he]⟩

theorem startsFunction_append (async : Option LineGap) (b : Body) (he : LineEnd e r) :
    startsFunction ((Definition.functionWord async).text ++ (b.text ++ e)) = true := by
  have hfunction : startsDeclaration ["function"]
      (ofString "function" ++ (b.text ++ e)) = true :=
    startsDeclaration_append (by simp) b he
  cases async with
  | none => exact hfunction
  | some gap =>
    have hasync := wordAndBlanks?_gap (t := ofString "function" ++ (b.text ++ e)) "async"
      gap.toGap rfl
    rw [startsFunction, Definition.text, List.append_assoc, List.append_assoc, hasync]
    exact hfunction

theorem defaultExport?_item (i : Indent) (g gap : Gap) (d : Definition) (b : Body)
    (he : LineEnd e r) :
    defaultExport? (skipInline ((Item.exported i g (.default gap d b)).text ++ e)) =
      some (d.text ++ (b.text ++ e)) := by
  have hblank := Keyword.notAhead_blank (.definition d) (b.notAhead he)
  have hgap : wordAndBlanks? "default"
      (ofString "default" ++ (gap.text ++ (d.text ++ (b.text ++ e)))) =
        some (d.text ++ (b.text ++ e)) := wordAndBlanks?_gap "default" gap hblank
  rw [defaultExport?, wordAndBlanks?_export _ _ _ he, Option.bind_eq_bind, Option.bind_some]
  simp only [Export.text, List.append_assoc]
  rw [hgap, Option.bind_some]
  cases d with
  | functionWord async => rw [startsFunction_append async b he, Bool.true_or, if_pos rfl]
  | classWord =>
    have hclass : startsDeclaration ["class"] (ofString "class" ++ (b.text ++ e)) = true :=
      startsDeclaration_append (by simp) b he
    rw [Definition.text, hclass, Bool.or_true, if_pos rfl]

theorem namedExport?_item (i : Indent) (g : Gap) (k : Keyword) (b : Body)
    (he : LineEnd e r) :
    namedExport? (skipInline ((Item.exported i g (.declaration k b)).text ++ e)) =
      some (k.text ++ (b.text ++ e)) := by
  have hword {word : Text} (hword : word ∈ ([ofString "class", ofString "const", ofString "let",
      ofString "var"] : List Text)) : (startsFunction (word ++ (b.text ++ e)) ||
        startsDeclaration ["class", "const", "let", "var"] (word ++ (b.text ++ e))) = true := by
    rw [startsDeclaration_append hword b he, Bool.or_true]
  rw [namedExport?, wordAndBlanks?_export _ _ _ he, Option.bind_eq_bind, Option.bind_some,
    Export.text, List.append_assoc]
  refine if_pos ?_
  cases k with
  | definition d =>
    cases d with
    | functionWord async => rw [Keyword.text, startsFunction_append async b he, Bool.true_or]
    | classWord => exact hword (by decide)
  | constWord => exact hword (by decide)
  | letWord => exact hword (by decide)
  | varWord => exact hword (by decide)

/-- The words of a declaration are none that the other export recognisers look for. -/
theorem declaration_words (k : Keyword) (b : Body) (e : Text) :
    after? "*" ((Export.declaration k b).text ++ e) = none ∧
      wordAndBlanks? "type" ((Export.declaration k b).text ++ e) = none ∧
      after? [ofChar '\x7b'] ((Export.declaration k b).text ++ e) = none ∧
      wordAndBlanks? "default" ((Export.declaration k b).text ++ e) = none := by
  rcases k with ((_ | gap) | _) | _ | _ | _ <;> exact ⟨rfl, rfl, rfl, rfl⟩

/-- Only an export of everything starts with a star. -/
theorem exportStar?_other (i : Indent) (g : Gap) {x : Export}
    (hx : ∀ gap name o, x ≠ .all gap name o) (he : LineEnd e r) :
    exportStar? ((Item.exported i g x).text ++ e) = none := by
  rw [exportStar?, wordAndBlanks?_export _ _ _ he, Option.bind_eq_bind, Option.bind_some]
  cases x with
  | all gap name o => exact absurd rfl (hx gap name o)
  | list type names origin => cases origin <;> cases type <;> rfl
  | defaultName => rfl
  | default => rfl
  | declaration k b =>
    rw [(declaration_words k b e).1]
    rfl

theorem exportList?_defaultName (i : Indent) (g gap : Gap) (n : DefaultName) (en : Ending)
    (he : LineEnd e r) :
    exportList? ((Item.exported i g (.defaultName gap n en)).text ++ e) = none := by
  rw [exportList?, wordAndBlanks?_export _ _ _ he]
  rfl

theorem exportList?_default (i : Indent) (g gap : Gap) (d : Definition) (b : Body)
    (he : LineEnd e r) : exportList? ((Item.exported i g (.default gap d b)).text ++ e) = none := by
  rw [exportList?, wordAndBlanks?_export _ _ _ he]
  rfl

theorem exportList?_declaration (i : Indent) (g : Gap) (k : Keyword) (b : Body)
    (he : LineEnd e r) : exportList? ((Item.exported i g (.declaration k b)).text ++ e) = none := by
  obtain ⟨_, htype, hbrace, _⟩ := declaration_words k b e
  rw [exportList?, wordAndBlanks?_export _ _ _ he, Option.bind_eq_bind, Option.bind_some, htype,
    Option.getD_none, braceList?, hbrace]
  rfl

theorem defaultExport?_declaration (i : Indent) (g : Gap) (k : Keyword) (b : Body)
    (he : LineEnd e r) :
    defaultExport? (skipInline ((Item.exported i g (.declaration k b)).text ++ e)) = none := by
  rw [defaultExport?, wordAndBlanks?_export _ _ _ he, Option.bind_eq_bind, Option.bind_some,
    (declaration_words k b e).2.2.2]
  rfl

theorem defaultExportName?_declaration (i : Indent) (g : Gap) (k : Keyword) (b : Body)
    (he : LineEnd e r) :
    defaultExportName? ((Item.exported i g (.declaration k b)).text ++ e) = none := by
  rw [defaultExportName?, wordAndBlanks?_export _ _ _ he, Option.bind_eq_bind, Option.bind_some,
    (declaration_words k b e).2.2.2]
  rfl

end Exports

end SitePreview.Source
