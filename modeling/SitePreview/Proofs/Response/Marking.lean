import SitePreview.Proofs.Source.ModuleItem
import SitePreview.Proofs.Text.Parts
import SitePreview.Response.Marker

/-! Marker lines as they are written. Each style of marker gives back the path in it, and none of
the styles that are tried before it takes the line for one of its own. -/

namespace SitePreview.Response

open Text CodePoint Source

/-- How a path is marked, with the spaces and tabs that may stand in the marker. -/
inductive MarkerStyle
  | comment (beforeWord beforePath : Indent)
  | markup (beforeWord beforePath behindPath : Indent)
  | bold (ticks : Bool)
  | heading (signs : Fin 6) (beforePath : Indent) (ticks : Bool)

def tick (ticks : Bool) : Text := if ticks then "\x60" else []

/-- The marker for a path; a heading has one number sign more than its number. -/
def MarkerStyle.text : MarkerStyle → Text → Text
  | comment beforeWord beforePath, path =>
    "//" ++ (beforeWord.text ++ ("filename:" ++ (beforePath.text ++ path)))
  | markup beforeWord beforePath behindPath, path =>
    "<!--" ++ (beforeWord.text ++ ("filename:" ++ (beforePath.text ++ (path ++
      (behindPath.text ++ "-->")))))
  | bold ticks, path => "**" ++ (tick ticks ++ (path ++ (tick ticks ++ "**")))
  | heading signs beforePath ticks, path =>
    List.replicate (signs + 1) (ofChar '#') ++
      (beforePath.text ++ (tick ticks ++ (path ++ tick ticks)))

/-- Something, a point and word code points. -/
def EndsInExtension (path : Text) : Prop :=
  ∃ stem extension : Text, stem ≠ [] ∧ extension ≠ [] ∧ (∀ c ∈ extension, c.isWord = true) ∧
    path = stem ++ ofChar '.' :: extension

/-- The style has a marker for the path. -/
def MarkerStyle.Admits : MarkerStyle → Text → Prop
  | bold _, path => ofChar '\x60' ∉ path ∧ ofChar '*' ∉ path ∧ EndsInExtension path
  | heading _ _ _, path =>
    ofChar '\x60' ∉ path ∧ path.head? ≠ some (ofChar '#') ∧ EndsInExtension path
  | _, _ => True

variable {path line : Text} {margin : Indent}

theorem hasExtension_of_endsInExtension (h : EndsInExtension path) : hasExtension path = true := by
  obtain ⟨stem, extension, hstem, hextension, hword, rfl⟩ := h
  have hpoint : ∀ c ∈ extension, decide (c ≠ ofChar '.') = true := by
    intro c hc
    have hne : c ≠ ofChar '.' := by
      rintro rfl
      exact absurd (hword _ hc) (by decide)
    exact decide_eq_true hne
  have htake : takeRightWhile (fun c => decide (c ≠ ofChar '.')) (stem ++ ofChar '.' :: extension) =
      extension := takeRightWhile_append_cons (by decide) hpoint
  have hlength := List.length_pos_of_ne_nil hstem
  have hall : extension.all isWord = true := List.all_eq_true.mpr hword
  simp only [hasExtension, htake, hall, List.length_append, List.length_cons, Bool.and_true,
    Bool.and_eq_true, decide_eq_true_eq]
  exact ⟨hextension, by omega⟩

theorem named?_append {mark : Text} (i : Indent) (s : Text) :
    named? mark (mark ++ (i.text ++ ("filename:" ++ s))) = some s := by
  have hskip : skipInline (i.text ++ ("filename:" ++ s)) = "filename:" ++ s :=
    dropWhile_append_stop i.all_inline rfl
  rw [named?, after?_append, Option.bind_eq_bind, Option.bind_some, hskip, after?_append]

/-- A comment gives its path. -/
theorem markedPath?_comment (beforeWord beforePath margin : Indent) (hne : path ≠ []) :
    markedPath? ((MarkerStyle.comment beforeWord beforePath).text path ++ margin.text) =
      some (beforePath.text ++ (path ++ margin.text)) := by
  have hcomment : commentPath? ("//" ++ (beforeWord.text ++ ("filename:" ++
      (beforePath.text ++ (path ++ margin.text))))) =
        some (beforePath.text ++ (path ++ margin.text)) := by
    rw [commentPath?, named?_append, Option.bind_eq_bind, Option.bind_some, if_neg (by simp [hne])]
  rw [markedPath?, MarkerStyle.text]
  simp only [List.append_assoc]
  rw [hcomment]
  rfl

theorem markupPath?_append (beforeWord margin : Indent) {inner : Text} (hne : inner ≠ []) :
    markupPath? ("<!--" ++
      (beforeWord.text ++ ("filename:" ++ (inner ++ ("-->" ++ margin.text))))) = some inner := by
  have hend : dropRightWhile isInlineBlank (inner ++ ("-->" ++ margin.text)) = inner ++ "-->" := by
    rw [← List.append_assoc]
    refine dropRightWhile_append ?_ margin.all_inline
    have hconcat : (inner ++ "-->" : Text) = inner ++ "--" ++ [ofChar '>'] :=
      (List.append_assoc inner "--" [ofChar '>']).symm
    rw [hconcat]
    exact dropRightWhile_concat (by decide) _
  have hsuffix : endsWith (inner ++ "-->") "-->" = true := by
    rw [endsWith, List.isSuffixOf_iff_suffix]
    exact List.suffix_append _ _
  have hlength : (inner ++ "-->" : Text).length = inner.length + 3 := List.length_append
  have hpos := List.length_pos_of_ne_nil hne
  have hlong : 3 < inner.length + 3 := by omega
  rw [markupPath?, named?_append, Option.bind_eq_bind, Option.bind_some]
  simp only [hend, hsuffix, hlength, hlong, decide_true, Bool.and_self, if_true,
    Nat.add_sub_cancel, List.take_left']

theorem markedPath?_markup (beforeWord beforePath behindPath margin : Indent) (hne : path ≠ []) :
    markedPath? ((MarkerStyle.markup beforeWord beforePath behindPath).text path ++ margin.text) =
      some (beforePath.text ++ (path ++ behindPath.text)) := by
  have hinner : beforePath.text ++ (path ++ behindPath.text) ≠ [] := by simp [hne]
  have hmarkup := markupPath?_append beforeWord margin hinner
  rw [markedPath?, MarkerStyle.text]
  simp only [List.append_assoc] at hmarkup ⊢
  rw [hmarkup]
  rfl

theorem after?_tick_eq_none {s : Text} (hs : s.head? ≠ some (ofChar '\x60')) :
    after? "\x60" s = none := by
  cases s with
  | nil => rfl
  | cons c s =>
    have hne : ofChar '\x60' ≠ c := by simpa [eq_comm] using hs
    exact if_neg hne

theorem dropPrefix_tick {s : Text} (ticks : Bool) (hs : s.head? ≠ some (ofChar '\x60')) :
    dropPrefix "\x60" (tick ticks ++ s) = s := by
  cases ticks with
  | true => rw [tick, if_pos rfl, dropPrefix, after?_append, Option.getD_some]
  | false =>
    have hnone := after?_tick_eq_none hs
    exact congrArg (Option.getD · s) hnone

theorem head?_append_ne {c : CodePoint} (hne : path ≠ []) (h : path.head? ≠ some c) (s : Text) :
    (path ++ s).head? ≠ some c := by
  rwa [List.head?_append_of_ne_nil path hne]

theorem head?_ne_of_not_mem {c : CodePoint} (h : c ∉ path) : path.head? ≠ some c :=
  fun hhead => h (List.mem_of_mem_head? hhead)

theorem skipInline_indent (i : Indent) : skipInline i.text = [] :=
  List.dropWhile_eq_nil_iff.mpr i.all_inline

theorem markedPath?_bold (ticks : Bool) (margin : Indent) (hne : path ≠ [])
    (h : (MarkerStyle.bold ticks).Admits path) :
    markedPath? ((MarkerStyle.bold ticks).text path ++ margin.text) = some path := by
  obtain ⟨htick, hstar, hextension⟩ := h
  have hpart : ∀ c ∈ path,
      (decide (c ≠ ofChar '\x60') && decide (c ≠ ofChar '*')) = true := by
    intro c hc
    have hc' : c ≠ ofChar '\x60' := fun heq => htick (heq ▸ hc)
    have hc'' : c ≠ ofChar '*' := fun heq => hstar (heq ▸ hc)
    simp [hc', hc'']
  have hstop : notAhead (fun c => decide (c ≠ ofChar '\x60') && decide (c ≠ ofChar '*'))
      (tick ticks ++ ("**" ++ margin.text)) = true := by
    cases ticks <;> rfl
  have hopened := dropPrefix_tick ticks
    (head?_append_ne hne (head?_ne_of_not_mem htick) (tick ticks ++ ("**" ++ margin.text)))
  have hclosed : dropPrefix "\x60" (tick ticks ++ ("**" ++ margin.text)) = "**" ++ margin.text :=
    dropPrefix_tick ticks (show some (ofChar '*') ≠ some (ofChar '\x60') by decide)
  have hbold : boldPath? ("**" ++ (tick ticks ++ (path ++ (tick ticks ++ ("**" ++ margin.text))))) =
      some path := by
    simp only [boldPath?, after?_append, Option.bind_eq_bind, Option.bind_some, hopened,
      dropWhile_append_stop hpart hstop, takeWhile_append_stop hpart hstop, hclosed,
      hasExtension_of_endsInExtension hextension, skipInline_indent,
      decide_true, Bool.and_self, if_true]
  rw [markedPath?, MarkerStyle.text]
  simp only [List.append_assoc]
  rw [hbold]
  rfl

theorem pathBeforeTick?_append (ticks : Bool) (margin : Indent) (hstrip : path.strip = path)
    (htick : ofChar '\x60' ∉ path) :
    pathBeforeTick? (path ++ (tick ticks ++ margin.text)) = some path := by
  have hpart {t : Text} (ht : ofChar '\x60' ∉ t) : ∀ c ∈ t, decide (c ≠ ofChar '\x60') = true :=
    fun c hc => decide_eq_true fun heq => ht (heq ▸ hc)
  cases ticks with
  | true =>
    have hstop : notAhead (fun c => decide (c ≠ ofChar '\x60')) (tick true ++ margin.text) = true :=
      rfl
    simp only [pathBeforeTick?, takeWhile_append_stop (hpart htick) hstop,
      dropWhile_append_stop (hpart htick) hstop]
    exact if_pos (skipInline_indent margin)
  | false =>
    -- there is no tick at all, so everything up to the end of the line is taken
    have hmargin : ofChar '\x60' ∉ margin.text :=
      fun hmem => absurd (margin.all_inline _ hmem) (by decide)
    have hall : ∀ c ∈ path ++ margin.text, decide (c ≠ ofChar '\x60') = true :=
      List.forall_mem_append.mpr ⟨hpart htick, hpart hmargin⟩
    have htake := takeWhile_append_stop hall notAhead_nil
    have hdrop := dropWhile_append_stop hall notAhead_nil
    rw [List.append_nil] at htake hdrop
    have hinline := dropRightWhile_of_imp (fun _ => isBlank_of_isInlineBlank)
      (ends_of_strip_eq hstrip).2
    simp only [pathBeforeTick?, tick, Bool.false_eq_true, if_false, List.nil_append, htake, hdrop,
      dropRightWhile_append hinline margin.all_inline]

theorem notAhead_indent_append {p : CodePoint → Bool} {t : Text} (i : Indent)
    (hp : ∀ c, c.isInlineBlank = true → p c = false) (ht : notAhead p t = true) :
    notAhead p (i.text ++ t) = true := by
  by_cases hnil : i.text = []
  · rwa [hnil, List.nil_append]
  · rw [notAhead_append hnil]
    exact notAhead_of_all i.all_inline hp

theorem notAhead_tick_append {p : CodePoint → Bool} (ticks : Bool) (hp : p (ofChar '\x60') = false)
    (hne : path ≠ []) (hpath : notAhead p path = true) (s : Text) :
    notAhead p (tick ticks ++ (path ++ s)) = true := by
  cases ticks with
  | true => simp [tick, ofString, hp]
  | false => exact (notAhead_append hne).trans hpath

theorem headingPath?_append (signs : Fin 6) (beforePath : Indent) (ticks : Bool) (margin : Indent)
    (hne : path ≠ []) (hstrip : path.strip = path)
    (h : (MarkerStyle.heading signs beforePath ticks).Admits path) :
    headingPath? (List.replicate (signs + 1) (ofChar '#') ++
      (beforePath.text ++ (tick ticks ++ (path ++ (tick ticks ++ margin.text))))) = some path := by
  obtain ⟨htick, hsign, hextension⟩ := h
  have hblank : notAhead isInlineBlank path = true :=
    notAhead_of_imp (fun _ => isBlank_of_isInlineBlank) (notAhead_isBlank_of_strip_eq hstrip)
  have hpath : notAhead (fun c => decide (c = ofChar '#')) path = true := by
    cases path with
    | nil => rfl
    | cons c s => simpa using hsign
  have hbehind := pathBeforeTick?_append ticks margin hstrip htick
  have hafter := after?_tick_eq_none (head?_append_ne hne (head?_ne_of_not_mem htick) margin.text)
  have hgap := dropWhile_append_stop beforePath.all_inline
    (notAhead_tick_append ticks (by decide) hne hblank (tick ticks ++ margin.text))
  have hsigns := notAhead_indent_append beforePath
    (fun c hc => decide_eq_false fun heq => absurd (heq ▸ hc) (by decide))
    (notAhead_tick_append ticks (by decide) hne hpath (tick ticks ++ margin.text))
  -- from here on, only how what is behind the signs starts is needed
  generalize hmarked : tick ticks ++ (path ++ (tick ticks ++ margin.text)) = marked at *
  have hall : ∀ c ∈ List.replicate (signs + 1) (ofChar '#'), decide (c = ofChar '#') = true :=
    fun c hc => decide_eq_true (List.eq_of_mem_replicate hc)
  have hmin : min 6 (signs + 1 : Nat) = signs + 1 := by omega
  have hdrop : (List.replicate (signs + 1 : Nat) (ofChar '#') ++ (beforePath.text ++ marked)).drop
      (signs + 1) = beforePath.text ++ marked := List.drop_left' (List.length_replicate ..)
  simp only [headingPath?, takeWhile_append_stop hall hsigns, List.length_replicate, hmin,
    Nat.succ_ne_zero, if_false, hdrop, skipInline, hgap]
  subst hmarked
  cases ticks with
  | true =>
    have hinner : after? "\x60" (tick true ++ (path ++ (tick true ++ margin.text))) =
        some (path ++ (tick true ++ margin.text)) := after?_append _ _
    simp [hinner, hbehind, hasExtension_of_endsInExtension hextension]
  | false =>
    simp only [tick, Bool.false_eq_true, if_false, List.nil_append] at hbehind ⊢
    simp [hafter, hbehind, hasExtension_of_endsInExtension hextension]

theorem markedPath?_heading (signs : Fin 6) (beforePath : Indent) (ticks : Bool) (margin : Indent)
    (hne : path ≠ []) (hstrip : path.strip = path)
    (h : (MarkerStyle.heading signs beforePath ticks).Admits path) :
    markedPath? ((MarkerStyle.heading signs beforePath ticks).text path ++ margin.text) =
      some path := by
  have hheading := headingPath?_append signs beforePath ticks margin hne hstrip h
  rw [markedPath?, MarkerStyle.text]
  simp only [List.append_assoc]
  rw [hheading]
  rfl

/-- A marker gives the path that it is for, perhaps with white space around it. -/
theorem exists_markedPath? (style : MarkerStyle) (margin : Indent) (hne : path ≠ [])
    (hstrip : path.strip = path) (h : style.Admits path) :
    ∃ marked, markedPath? (style.text path ++ margin.text) = some marked ∧ marked.strip = path := by
  have hblank (i : Indent) : ∀ c ∈ i.text, c.isBlank = true :=
    fun c hc => isBlank_of_isInlineBlank (i.all_inline c hc)
  cases style with
  | comment beforeWord beforePath =>
    exact ⟨_, markedPath?_comment beforeWord beforePath margin hne,
      strip_append hstrip hne (hblank beforePath) (hblank margin)⟩
  | markup beforeWord beforePath behindPath =>
    exact ⟨_, markedPath?_markup beforeWord beforePath behindPath margin hne,
      strip_append hstrip hne (hblank beforePath) (hblank behindPath)⟩
  | bold ticks => exact ⟨path, markedPath?_bold ticks margin hne h, hstrip⟩
  | heading signs beforePath ticks =>
    exact ⟨path, markedPath?_heading signs beforePath ticks margin hne hstrip h, hstrip⟩

theorem lineFeed_not_mem_indent (i : Indent) : ofChar '\n' ∉ i.text :=
  fun h => absurd (i.all_inline _ h) (by decide)

/-- A marker is one line. -/
theorem lineFeed_not_mem_marker (style : MarkerStyle) (h : ofChar '\n' ∉ path) :
    ofChar '\n' ∉ style.text path := by
  have htick (ticks : Bool) : ofChar '\n' ∉ tick ticks := by cases ticks <;> decide
  cases style with
  | comment beforeWord beforePath =>
    simp only [MarkerStyle.text, List.mem_append, lineFeed_not_mem_indent, h, or_false, false_or,
      not_or]
    decide
  | markup beforeWord beforePath behindPath =>
    simp only [MarkerStyle.text, List.mem_append, lineFeed_not_mem_indent, h, false_or,
      not_or]
    decide
  | bold ticks =>
    simp only [MarkerStyle.text, List.mem_append, htick, h, false_or, not_or]
    decide
  | heading signs beforePath ticks =>
    simp only [MarkerStyle.text, List.mem_append, lineFeed_not_mem_indent, htick, h, or_false,
      List.mem_replicate, not_and]
    exact fun _ => by decide

/-- A marker does not start with a tick, as a fence does. -/
theorem head?_marker (style : MarkerStyle) (path : Text) :
    ∃ c, (style.text path).head? = some c ∧ c ≠ ofChar '\x60' := by
  cases style with
  | comment => exact ⟨ofChar '/', rfl, by decide⟩
  | markup => exact ⟨ofChar '<', rfl, by decide⟩
  | bold => exact ⟨ofChar '*', rfl, by decide⟩
  | heading => exact ⟨ofChar '#', rfl, by decide⟩

end SitePreview.Response
