import SitePreview.Proofs.Source.Elimination
import SitePreview.Proofs.Source.MountItem
import SitePreview.Proofs.Source.Settled

/-! Removal of mount statements. Each search takes the statements that it knows with the lines they
stand on and passes over everything else that is left when its turn comes, so the pass leaves
exactly the ordinary lines, in their order. -/

namespace SitePreview.Source

open Text CodePoint

variable {names : List Text} {e r t u v : Text} {x : Search} {m : MountStart}

theorem RootWord.not_mem_variableWords (w : RootWord) : w.text ∉ variableWords := by
  cases w <;> decide

namespace Search

/-- The search is made in a source that binds the names. -/
def MadeFor (names : List Text) : Search → Prop
  | render name => name ∈ names
  | _ => True

/-- The start is still there when the turn of the search comes. -/
def Meets : Search → MountStart → Prop
  | binding, _ => True
  | mount, .binding _ => False
  | mount, _ => True
  | render _, .render _ => True
  | render _, _ => False

theorem knows_binding_iff : binding.Knows m ↔ ∃ b, m = .binding b := by
  cases m with
  | binding b => exact ⟨fun _ => ⟨b, rfl⟩, fun _ => trivial⟩
  | root | render => exact ⟨False.elim, fun ⟨_, h⟩ => by cases h⟩

/-- The words that a line starts with in which the search finds something. -/
def words (names : List Text) : Search → List Text
  | binding => variableWords
  | _ => mountWords names

theorem Fits.mem_words {w : Text} {c : Option CodePoint} (hx : x.MadeFor names) (h : x.Fits w c) :
    w ∈ x.words names := by
  cases x with
  | binding => exact h.1
  | mount =>
    rcases h with ⟨rfl, -⟩ | ⟨h, -⟩
    · simp [words, mountWords]
    · rcases List.mem_pair.mp h with rfl | rfl <;> simp [words, mountWords]
  | render name =>
    obtain ⟨rfl, -⟩ := h
    exact List.mem_append_right _ hx

theorem mem_words_subset {w : Text} (h : w ∈ x.words names) :
    w ∈ variableWords ++ mountWords names := by
  cases x with
  | binding => exact List.mem_append_left _ h
  | mount | render => exact List.mem_append_right _ h

theorem call?_eq_none_of_not_fits (hx : x.Named) (h : ¬x.Fits (firstWord u) (nextMark u)) :
    x.call? u = none := by
  rw [Option.eq_none_iff_forall_ne_some]
  exact fun r hr => h (fits_of_call? hx hr)

theorem not_fits_nil (hx : x.Named) (c : Option CodePoint) : ¬x.Fits [] c := by
  cases x with
  | binding => exact fun h => absurd h.1 (by decide)
  | mount =>
    rintro (⟨h, -⟩ | ⟨h, -⟩)
    · exact absurd h (by decide)
    · exact absurd h (by decide)
  | render name =>
    obtain ⟨n, rfl⟩ := hx
    exact fun h => n.text_ne_nil h.1.symm

/-- A start that the search does not know does not show one that it does. -/
theorem not_fits_of_not_knows (hm : x.Meets m) (hk : ¬x.Knows m) :
    ¬x.Fits m.word (some m.mark) := by
  cases x with
  | binding =>
    cases m with
    | binding => exact absurd trivial hk
    | root y =>
      have hdom : ofString "ReactDOM" ∉ variableWords := by decide
      rcases y with ⟨_ | d, w, b⟩
      · exact fun h => w.not_mem_variableWords h.1
      · exact fun h => hdom h.1
    | render y =>
      rintro ⟨-, c, hc, hstart⟩
      have hpoint : (ofChar '.').isIdentifierStart = false := by decide
      obtain rfl : ofChar '.' = c := Option.some.inj hc
      simp [hpoint] at hstart
  | mount =>
    cases m with
    | binding => exact hm.elim
    | root => exact absurd trivial hk
    | render y =>
      have hne : some (ofChar '.') ≠ some (ofChar '(') := by decide
      rintro (⟨h, -⟩ | ⟨-, h⟩)
      · exact hk h
      · exact hne h
  | render name =>
    cases m with
    | binding | root => exact hm.elim
    | render y => exact fun h => hk h.1

/-- The lines within a start that the search does not know show none that it does. -/
theorem not_fits_inner (hx : x.Named) (hm : x.Meets m) (hk : ¬x.Knows m)
    (h : ofChar '\n' :: v <:+ m.text) (t : Text) :
    ¬x.Fits (firstWord (v ++ ofChar '(' :: t)) (nextMark (v ++ ofChar '(' :: t)) := by
  cases m with
  | binding =>
    cases x with
    | binding => exact absurd trivial hk
    | mount | render => exact hm.elim
  | root y =>
    cases x with
    | binding =>
      rcases y.inner h t with hword | hword
      · exact hword ▸ not_fits_nil hx _
      · exact hword ▸ fun h => y.word.not_mem_variableWords h.1
    | mount => exact absurd trivial hk
    | render => exact hm.elim
  | render y =>
    rcases y.inner h t with hword | ⟨hword, hmark⟩
    · exact hword ▸ not_fits_nil hx _
    · rw [hword, hmark]
      cases x with
      | binding => exact fun h => absurd h.1 (by decide)
      | mount =>
        rintro (⟨h, -⟩ | ⟨h, -⟩)
        · exact absurd h (by decide)
        · exact absurd h (by decide)
      | render => exact fun h => absurd h.2 (by decide)

end Search

section Quiet

theorem Calls.exists_concat {s : Text} (h : Calls s) : ∃ u, s = u ++ [ofChar ')'] := by
  induction h with
  | one call =>
    obtain ⟨a, -, rfl⟩ := call
    exact ⟨ofChar '(' :: a, rfl⟩
  | @chained t _ call l _ ih =>
    obtain ⟨u, rfl⟩ := ih
    exact ⟨t ++ (l.text ++ u), by simp⟩

/-- The lines within the calls of a mount statement start with none of the words of another. -/
theorem Mount.firstWord_inner (m : Mount names) (h : ofChar '\n' :: u <:+ m.calls) (t : Text) :
    firstWord (u ++ t) ∉ variableWords ++ mountWords names := by
  obtain ⟨a, ha⟩ := m.isCalls.exists_concat
  obtain ⟨w, rfl⟩ : ∃ w, u = w ++ [ofChar ')'] := by
    rw [ha, List.suffix_concat_iff] at h
    rcases h with h | ⟨w, hw, -⟩
    · exact absurd h (by simp)
    · cases w with
      | nil => exact absurd (List.cons.inj hw).1 (by decide)
      | cons c w => exact ⟨w, (List.cons.inj hw).2⟩
  have hword (t : Text) : firstWord (w ++ ofChar ')' :: t) = firstWord w :=
    firstWord_append_stop rfl rfl w
  have hinner := m.inner _ h
  rw [hword []] at hinner
  rw [List.append_assoc]
  exact (hword t).symm ▸ hinner

theorem Mount.quiet_calls (m : Mount names) (hx : x.Named) (hmade : x.MadeFor names)
    (h : ofChar '\n' :: v <:+ m.calls ++ m.ending.text) (e : Text) : x.call? (v ++ e) = none := by
  rcases suffix_append_cases h with h | ⟨u, hu, rfl⟩
  · exact absurd (h.subset List.mem_cons_self) m.ending.no_lineFeed
  · rw [List.append_assoc]
    exact Search.call?_eq_none_of_not_fits hx fun hfits =>
      m.firstWord_inner hu _ (Search.mem_words_subset (hfits.mem_words hmade))

/-- A search passes over a mount statement that it does not know. -/
theorem Mount.quiet (m : Mount names) (hx : x.Named) (hmade : x.MadeFor names)
    (hm : x.Meets m.start) (hk : ¬x.Knows m.start) (e : Text) :
    x.call? (m.text ++ e) = none ∧
      ∀ v, ofChar '\n' :: v <:+ m.text → x.call? (v ++ e) = none := by
  obtain ⟨a, ha⟩ := m.isCalls.exists_cons
  have hsplit (u : Text) : u ++ (m.calls ++ m.ending.text) ++ e =
      u ++ ofChar '(' :: (a ++ (m.ending.text ++ e)) := by simp [ha]
  constructor
  · obtain ⟨hword, hmark⟩ := m.start.shows m.indent (a ++ (m.ending.text ++ e))
    refine Search.call?_eq_none_of_not_fits hx ?_
    have hline : m.text ++ e =
        m.indent.text ++ (m.start.text ++ ofChar '(' :: (a ++ (m.ending.text ++ e))) := by
      rw [Statement.text, List.append_assoc, hsplit]
    rw [hline, hword, hmark]
    exact Search.not_fits_of_not_knows hm hk
  · intro v hv
    rcases suffix_append_cases (suffix_append_of_not_mem m.indent.no_lineFeed hv) with
      hv | ⟨u, hu, rfl⟩
    · exact m.quiet_calls hx hmade hv e
    · rw [hsplit]
      exact Search.call?_eq_none_of_not_fits hx (Search.not_fits_inner hx hm hk hu _)

theorem BindingStart.no_semicolon (b : BindingStart) : ofChar ';' ∉ b.text := by
  have hword := not_mem_of_all (c := ofChar ';') b.word.all_part (by decide)
  have hgap := not_mem_of_all (c := ofChar ';') b.gap.all_blank (by decide)
  have hname := not_mem_of_all (c := ofChar ';') b.name.all_part (by decide)
  have hbefore := not_mem_of_all (c := ofChar ';') b.before.all_blank (by decide)
  have hafter := not_mem_of_all (c := ofChar ';') b.after.all_blank (by decide)
  have hequals : ofChar ';' ≠ ofChar '=' := by decide
  have hroot : ofChar ';' ∉ b.root.text := by
    have hword := not_mem_of_all (c := ofChar ';') b.root.word.all_part (by decide)
    have hbehind := not_mem_of_all (c := ofChar ';') b.root.behind.all_blank (by decide)
    have hdom : ofChar ';' ∉ b.root.dom.elim [] DomPrefix.text := by
      cases b.root.dom with
      | none => exact List.not_mem_nil
      | some d =>
        have hname : ofChar ';' ∉ ofString "ReactDOM" := by decide
        have hpoint : ofChar ';' ≠ ofChar '.' := by decide
        have hbefore := not_mem_of_all (c := ofChar ';') d.before.all_blank (by decide)
        have hafter := not_mem_of_all (c := ofChar ';') d.after.all_blank (by decide)
        simp [DomPrefix.text, hname, hpoint, hbefore, hafter]
    simp [RootStart.text, hdom, hword, hbehind]
  simp [BindingStart.text, hword, hgap, hname, hbefore, hequals, hafter, hroot]

/-- A binding that starts a line ends within the line if a semicolon does. -/
theorem assignsRoot_of_rootBinding? {s name opened : Text} (hs : EndsInSemicolon s)
    (h : rootBinding? (s ++ e) = some (name, opened)) : AssignsRoot s := by
  obtain ⟨a, b, rfl⟩ := hs
  obtain ⟨i, y, t, -, rfl, hsplit⟩ := exists_bindingStart h
  refine ⟨i, y, ?_⟩
  have hstart : i.text ++ (y.text ++ [ofChar '(']) <+: a ++ ofChar ';' :: b.text ++ e :=
    ⟨t, by rw [hsplit]; simp⟩
  have hline : a ++ [ofChar ';'] <+: a ++ ofChar ';' :: b.text ++ e := ⟨b.text ++ e, by simp⟩
  rcases List.prefix_or_prefix_of_prefix hstart hline with hp | hp
  · exact hp.trans ⟨b.text, by simp⟩
  · have hmem : ofChar ';' ∈ i.text ++ (y.text ++ [ofChar '(']) := hp.subset (by simp)
    have hindent := not_mem_of_all (c := ofChar ';') i.all_inline (by decide)
    have hparen : ofChar ';' ≠ ofChar '(' := by decide
    simp [hindent, y.no_semicolon, hparen] at hmem

/-- No search finds anything in an ordinary line. -/
theorem OrdinaryLine.quiet (l : OrdinaryLine names) (hx : x.Named) (hmade : x.MadeFor names)
    (he : LineEnd e r) : x.call? (l.text ++ e) = none := by
  have hword : firstWord (l.text ++ e) = firstWord l.text :=
    firstWord_append_stop (he.notAhead (by decide)) (he.notAhead (by decide)) _
  have hnot (hmem : firstWord l.text ∉ x.words names) : x.call? (l.text ++ e) = none :=
    Search.call?_eq_none_of_not_fits hx fun h => hmem (hword ▸ h.mem_words hmade)
  cases x with
  | binding =>
    by_cases hvar : firstWord l.text ∈ variableWords
    · obtain ⟨hends, hassigns⟩ := l.declares hvar
      rw [Search.call?, Option.map_eq_none_iff, Option.eq_none_iff_forall_ne_some]
      exact fun y hy => hassigns (assignsRoot_of_rootBinding? hends hy)
    · exact hnot hvar
  | mount | render => exact hnot l.firstWord_ne

end Quiet

section Scanning

variable {items : List (MountItem names)} {last : Option (MountItem names)}

/-- Scanning passes over a text in which no line starts an edit. -/
theorem passes_of_quiet {edit : Text → Option Edit} {w : Text}
    (h : ∀ v, ofChar '\n' :: v <:+ w → edit (v ++ t) = none) : Passes edit w t := by
  induction w with
  | nil => rfl
  | cons c w ih =>
    have hpass := ih fun v hv => h v (hv.trans (List.suffix_cons c w))
    rw [Passes, List.cons_append, editFrom_cons_of_none (by simp), List.cons_append]
    by_cases hc : c = ofChar '\n'
    · subst hc
      rw [decide_eq_true rfl, editFrom_eq_false (h w List.suffix_rfl), hpass]
    · rw [decide_eq_false hc, hpass]

/-- The item is a mount statement that the search knows. -/
def MountItem.takenBy (x : Search) : MountItem names → Bool
  | mount m => decide (x.Knows m.start)
  | line _ => false

/-- The item is still there when the turn of the search comes. -/
def MountItem.MetBy (x : Search) : MountItem names → Prop
  | mount m => x.Meets m.start
  | line _ => True

/-- The text goes on with no point. -/
def Pointless (s : Text) : Prop := (skipBlanks s).head? ≠ some (ofChar '.')

theorem pointless_of_lineEnd (he : LineEnd e r) (hr : Pointless r) : Pointless e := by
  cases he with
  | feed => exact hr
  | stop => exact hr

theorem chainedCall?_ending (en : Ending) (he : Pointless e) :
    chainedCall? (en.text ++ e) = none := by
  refine chainedCall?_eq_none ?_
  have hinline (i : Indent) (s : Text) : skipBlanks (i.text ++ s) = skipBlanks s :=
    List.dropWhile_append_of_pos fun c hc => isBlank_of_isInlineBlank (i.all_inline c hc)
  rw [Ending.text, List.append_assoc, hinline]
  cases en.semicolon with
  | true => exact (by decide : some (ofChar ';') ≠ some (ofChar '.'))
  | false =>
    rw [if_neg (by simp), List.nil_append, hinline]
    exact he

/-- A start begins with its first word. -/
theorem MountStart.exists_word (m : MountStart) : ∃ u, m.text = m.word ++ u ∧ m.word ≠ [] ∧
    ∀ c ∈ m.word, c.isIdentifierPart = true := by
  cases m with
  | binding b => exact ⟨_, rfl, b.word.text_ne_nil, b.word.all_part⟩
  | root y =>
    rcases y with ⟨_ | d, w, b⟩
    · exact ⟨_, rfl, w.text_ne_nil, w.all_part⟩
    · exact ⟨_, List.append_assoc _ _ _, by simp [word, ofString], reactDomName.all_part⟩
  | render y => exact ⟨_, rfl, y.name.text_ne_nil, y.name.all_part⟩

theorem MountStart.pointless (m : MountStart) (i : Indent) (t : Text) :
    Pointless (i.text ++ (m.text ++ t)) := by
  obtain ⟨u, hu, hne, hpart⟩ := m.exists_word
  obtain ⟨c, w, hw⟩ := List.exists_cons_of_ne_nil hne
  have hc : c.isIdentifierPart = true := hpart c (by simp [hw])
  have hskip : skipBlanks (i.text ++ (m.text ++ t)) = c :: (w ++ (u ++ t)) := by
    rw [hu, hw, List.append_assoc]
    exact dropWhile_append_stop (fun d hd => isBlank_of_isInlineBlank (i.all_inline d hd))
      (by simp [isBlank_of_isIdentifierPart hc])
  rw [Pointless, hskip]
  rintro h
  obtain rfl : c = ofChar '.' := Option.some.inj h
  exact absurd hc (by decide)

theorem MountItem.pointless (i : MountItem names) (he : Pointless e) : Pointless (i.text ++ e) := by
  cases i with
  | mount m =>
    have := m.start.pointless m.indent (m.calls ++ (m.ending.text ++ e))
    simpa [MountItem.text, Statement.text] using this
  | line l =>
    rw [Pointless, skipBlanks, MountItem.text, List.dropWhile_append]
    split
    · exact he
    · next hne =>
      have hpoint := l.no_point
      rw [skipBlanks] at hpoint
      cases hd : l.text.dropWhile CodePoint.isBlank with
      | nil => simp [hd] at hne
      | cons c u =>
        rw [hd] at hpoint
        exact hpoint

theorem pointless_mountText (items : List (MountItem names)) (last : Option (MountItem names)) :
    Pointless (mountText items last) := by
  have hnil : Pointless [] := by simp [Pointless, skipBlanks]
  induction items with
  | nil =>
    cases last with
    | none => exact hnil
    | some i =>
      have := i.pointless hnil
      rwa [List.append_nil] at this
  | cons i items ih => exact i.pointless (pointless_of_lineEnd (.feed _) ih)

/-- One search on one item. -/
theorem MountItem.editFrom_item (i : MountItem names) (hx : x.Named) (hmade : x.MadeFor names)
    (hm : i.MetBy x) (he : LineEnd e r) (hr : Pointless r) :
    editFrom (callEdit x.call?) true (i.text ++ e) =
      if i.takenBy x then editFrom (callEdit x.call?) true r
      else i.text ++ editFrom (callEdit x.call?) false e := by
  have hnone {u : Text} (h : x.call? u = none) : callEdit x.call? u = none := by
    rw [callEdit, h, Option.map_none]
  cases i with
  | line l =>
    have hquiet := hnone (l.quiet hx hmade he)
    rw [MountItem.text, editFrom_eq_false hquiet]
    exact passes_of_no_lineFeed l.no_lineFeed e
  | mount m =>
    by_cases hk : x.Knows m.start
    · obtain ⟨a, ha⟩ := m.isCalls.exists_cons
      have hline : m.text ++ e =
          m.indent.text ++ (m.start.text ++ (m.calls ++ (m.ending.text ++ e))) := by
        simp [Statement.text]
      have hcall : x.call? (m.text ++ e) = some (m.calls ++ (m.ending.text ++ e)) := by
        rw [hline, ha]
        exact Search.call?_start hk m.indent _
      have hstatement : callStatement? (m.calls ++ (m.ending.text ++ e)) = some r := by
        rw [callStatement?_calls m.isCalls
          (chainedCall?_ending m.ending (pointless_of_lineEnd he hr))]
        exact statementTail?_ending m.ending he
      have hedit : callEdit x.call? (m.text ++ e) = some (.remove r) := by
        rw [callEdit, hcall]
        simp only [Option.map_some, hstatement]
      have hlt : r.length < (m.text ++ e).length := by
        have := (callStatement?_consumes _ _ hstatement).2
        have := congrArg List.length hline
        simp only [List.length_append] at *
        omega
      rw [MountItem.text, editFrom_of_some hedit hlt]
      simp [MountItem.takenBy, hk, Edit.remove]
    · obtain ⟨hstart, hinner⟩ := m.quiet hx hmade hm hk e
      have htaken : ¬(MountItem.mount m).takenBy x = true := by simp [MountItem.takenBy, hk]
      rw [MountItem.text, if_neg htaken, editFrom_eq_false (hnone hstart)]
      exact passes_of_quiet fun v hv => hnone (hinner v hv)

theorem mountText_cons (i : MountItem names) (items : List (MountItem names))
    (last : Option (MountItem names)) :
    mountText (i :: items) last = i.text ++ ofChar '\n' :: mountText items last := rfl

/-- One search on a source of items. -/
theorem removeCalls_mountText (hx : x.Named) (hmade : x.MadeFor names)
    (hitems : ∀ i ∈ items, i.MetBy x) (hlast : ∀ i ∈ last, i.MetBy x) :
    removeCalls x.call? (mountText items last) =
      mountText (items.filter fun i => !i.takenBy x) (last.filter fun i => !i.takenBy x) := by
  have hnil (b : Bool) : editFrom (callEdit x.call?) b [] = [] := by rw [editFrom]
  rw [removeCalls_eq]
  induction items with
  | nil =>
    cases last with
    | none => exact hnil true
    | some i =>
      have hi := i.editFrom_item hx hmade (hlast i rfl) .stop (by simp [Pointless, skipBlanks])
      rw [List.append_nil, hnil, hnil, List.append_nil] at hi
      cases ht : i.takenBy x <;> simp [mountText, unlines, hi, ht, Option.filter]
  | cons i items ih =>
    rw [List.forall_mem_cons] at hitems
    rw [mountText_cons, i.editFrom_item hx hmade hitems.1 (.feed _)
      (pointless_mountText items last), editFrom_lineFeed, ih hitems.2]
    cases ht : i.takenBy x <;> simp [ht, mountText_cons]

/-- Each of the searches meets the item if those in front leave it. -/
def MountItem.MetInTurn (i : MountItem names) : List Search → Prop
  | [] => True
  | x :: xs => i.MetBy x ∧ (i.takenBy x = false → i.MetInTurn xs)

/-- None of the searches takes the item. -/
def MountItem.untaken (xs : List Search) (i : MountItem names) : Bool :=
  xs.all fun x => !i.takenBy x

/-- Searches one after another on a source of items. -/
theorem foldl_removeCalls_mountText {xs : List Search}
    (hxs : ∀ x ∈ xs, x.Named ∧ x.MadeFor names) (hitems : ∀ i ∈ items, i.MetInTurn xs)
    (hlast : ∀ i ∈ last, i.MetInTurn xs) :
    xs.foldl (fun t x => removeCalls x.call? t) (mountText items last) =
      mountText (items.filter (MountItem.untaken xs)) (last.filter (MountItem.untaken xs)) := by
  induction xs generalizing items last with
  | nil =>
    have htrue : (MountItem.untaken [] : MountItem names → Bool) = fun _ => true := rfl
    rw [List.foldl_nil, htrue, List.filter_true]
    cases last <;> rfl
  | cons x xs ih =>
    rw [List.forall_mem_cons] at hxs
    rw [List.foldl_cons, removeCalls_mountText hxs.1.1 hxs.1.2 (fun i hi => (hitems i hi).1)
      (fun i hi => (hlast i hi).1), ih hxs.2]
    · have hcons : (MountItem.untaken (x :: xs) : MountItem names → Bool) = fun i =>
          !i.takenBy x && MountItem.untaken xs i := rfl
      rw [List.filter_filter, Option.filter_filter, hcons]
      simp only [Bool.and_comm]
    · intro i hi
      obtain ⟨hi, ht⟩ := List.mem_filter.mp hi
      exact (hitems i hi).2 (by simpa using ht)
    · intro i hi
      obtain ⟨hi, ht⟩ := Option.mem_filter_iff.mp hi
      exact (hlast i hi).2 (by simpa using ht)

end Scanning

section Names

variable {items : List (MountItem names)} {last : Option (MountItem names)}

/-- What the pass looks for to find the names of roots. -/
def bindingFind (s : Text) : Option (Text × Text) :=
  (rootBinding? s).map fun (name, opened) => (name, opened.tail)

theorem rootNames_eq (s : Text) : rootNames s = distinct (findFrom bindingFind true s) := rfl

theorem findFrom_cons_of_none {b : Bool} {c : CodePoint}
    (h : b = true → bindingFind (c :: t) = none) :
    findFrom bindingFind b (c :: t) = findFrom bindingFind (c = '\n') t := by
  rw [findFrom]
  cases b with
  | false => rfl
  | true => simp [h rfl]

theorem findFrom_eq_false (h : bindingFind t = none) :
    findFrom bindingFind true t = findFrom bindingFind false t := by
  cases t with
  | nil => rw [findFrom, findFrom]
  | cons c t => rw [findFrom_cons_of_none fun _ => h, findFrom_cons_of_none (by simp)]

theorem findFrom_of_some {name rest : Text} (h : bindingFind t = some (name, rest))
    (hlt : rest.length < t.length) :
    findFrom bindingFind true t = name :: findFrom bindingFind false rest := by
  cases t with
  | nil => exact absurd hlt (Nat.not_lt_zero _)
  | cons c t =>
    rw [findFrom]
    simp only [if_true, h]
    exact if_pos hlt

/-- The search for names passes over a text in which no line starts a binding. -/
theorem findFrom_of_quiet {w : Text}
    (h : ∀ v, ofChar '\n' :: v <:+ w → bindingFind (v ++ t) = none) :
    findFrom bindingFind false (w ++ t) = findFrom bindingFind false t := by
  induction w with
  | nil => rfl
  | cons c w ih =>
    have hpass := ih fun v hv => h v (hv.trans (List.suffix_cons c w))
    rw [List.cons_append, findFrom_cons_of_none (by simp)]
    by_cases hc : c = ofChar '\n'
    · subst hc
      rw [decide_eq_true rfl, findFrom_eq_false (h w List.suffix_rfl), hpass]
    · rw [decide_eq_false hc, hpass]

theorem bindingFind_eq_none (h : Search.binding.call? t = none) : bindingFind t = none := by
  rw [Search.call?, Option.map_eq_none_iff] at h
  rw [bindingFind, h, Option.map_none]

/-- The search for names finds that of an item. -/
theorem MountItem.findFrom_item (i : MountItem names) (he : LineEnd e r) :
    findFrom bindingFind true (i.text ++ e) =
      i.boundName?.toList ++ findFrom bindingFind false e := by
  cases i with
  | line l =>
    have hquiet := bindingFind_eq_none (l.quiet (x := .binding) trivial trivial he)
    rw [MountItem.text, findFrom_eq_false hquiet]
    refine findFrom_of_quiet fun v hv => ?_
    exact absurd (hv.subset List.mem_cons_self) l.no_lineFeed
  | mount m =>
    by_cases hk : Search.binding.Knows m.start
    · -- the search goes on behind the parenthesis of the binding, within its calls
      obtain ⟨a, ha⟩ := m.isCalls.exists_cons
      obtain ⟨b, hb⟩ := Search.knows_binding_iff.mp hk
      have hline : m.text ++ e =
          m.indent.text ++ (b.text ++ ofChar '(' :: (a ++ m.ending.text ++ e)) := by
        simp [Statement.text, hb, MountStart.text, ha]
      have hfind : bindingFind (m.text ++ e) = some (b.name.text, a ++ m.ending.text ++ e) := by
        rw [hline, bindingFind, rootBinding?_start]
        rfl
      have hquiet : findFrom bindingFind false (a ++ m.ending.text ++ e) =
          findFrom bindingFind false e := by
        refine findFrom_of_quiet fun v hv => bindingFind_eq_none ?_
        refine m.quiet_calls (x := .binding) trivial trivial (hv.trans ?_) e
        exact ⟨[ofChar '('], by simp [ha]⟩
      have hname : (MountItem.mount m).boundName? = some b.name.text := by
        simp [boundName?, hb]
      have hlen := congrArg List.length hline
      simp only [List.length_append, List.length_cons] at hlen
      rw [MountItem.text, hname, Option.toList_some, findFrom_of_some hfind (by simp; omega),
        hquiet]
      rfl
    · obtain ⟨hstart, hinner⟩ := m.quiet (x := .binding) trivial trivial trivial hk e
      have hname : (MountItem.mount m).boundName? = none := by
        cases hs : m.start with
        | binding b => exact absurd (Search.knows_binding_iff.mpr ⟨b, hs⟩) hk
        | root | render => simp [boundName?, hs]
      rw [MountItem.text, hname, findFrom_eq_false (bindingFind_eq_none hstart)]
      exact findFrom_of_quiet fun v hv => bindingFind_eq_none (hinner v hv)

theorem findFrom_lineFeed (s : Text) :
    findFrom bindingFind false (ofChar '\n' :: s) = findFrom bindingFind true s := by
  rw [findFrom_cons_of_none (by simp)]
  simp

/-- The search for names finds those of the items. -/
theorem findFrom_mountText (items : List (MountItem names)) (last : Option (MountItem names)) :
    findFrom bindingFind true (mountText items last) =
      (items ++ last.toList).filterMap MountItem.boundName? := by
  have hnil (b : Bool) : findFrom bindingFind b [] = [] := by rw [findFrom]
  induction items with
  | nil =>
    cases last with
    | none => exact hnil true
    | some i =>
      have hi := i.findFrom_item .stop
      rw [List.append_nil, hnil, List.append_nil] at hi
      cases hn : i.boundName? <;> simp [mountText, unlines, hi, hn]
  | cons i items ih =>
    rw [mountText_cons, i.findFrom_item (.feed _), findFrom_lineFeed, ih]
    cases hn : i.boundName? <;> simp [hn]

/-- The names of roots are those that the source binds. -/
theorem MountSource.mem_rootNames (p : MountSource) (n : Text) :
    n ∈ rootNames p.text ↔ n ∈ p.names := by
  rw [rootNames_eq, mem_distinct, MountSource.text, findFrom_mountText, List.mem_filterMap,
    p.bound]

end Names

section Sources

variable {items : List (MountItem names)} {last : Option (MountItem names)}

/-- The searches of a pass meet every item in turn: bindings are gone when the second search is made
and starts without a name when those for names are. -/
theorem MountItem.metInTurn (i : MountItem names) (ns : List Text) :
    i.MetInTurn (.binding :: .mount :: ns.map .render) := by
  have hrenders (hi : ∀ n : Text, i.MetBy (.render n)) : i.MetInTurn (ns.map .render) := by
    induction ns with
    | nil => trivial
    | cons n ns ih => exact ⟨hi n, fun _ => ih⟩
  cases i with
  | line l => exact ⟨trivial, fun _ => ⟨trivial, fun _ => hrenders fun _ => trivial⟩⟩
  | mount m =>
    refine ⟨trivial, fun hbinding => ?_⟩
    have hmet (x : Search) : (MountItem.mount m).MetBy x ↔ x.Meets m.start := Iff.rfl
    have htaken (x : Search) : (MountItem.mount m).takenBy x = decide (x.Knows m.start) := rfl
    rw [htaken, decide_eq_false_iff_not] at hbinding
    refine ⟨?_, fun hmount => hrenders fun n => ?_⟩
    · rw [hmet]
      cases hs : m.start with
      | binding b => exact absurd (hs ▸ trivial) hbinding
      | root | render => trivial
    · rw [htaken, decide_eq_false_iff_not] at hmount
      rw [hmet]
      cases hs : m.start with
      | binding b => exact absurd (hs ▸ trivial) hbinding
      | root y => exact absurd (hs ▸ trivial) hmount
      | render => trivial

/-- Every mount statement is taken by one of the searches. -/
theorem Mount.taken (m : Mount names) {ns : List Text} (hns : ∀ n, n ∈ ns ↔ n ∈ names) :
    (MountItem.mount m).untaken (.binding :: .mount :: ns.map .render) = false := by
  have hknown {x : Search} (hx : x ∈ Search.binding :: .mount :: ns.map .render)
      (hk : x.Knows m.start) :
      (MountItem.mount m).untaken (.binding :: .mount :: ns.map .render) = false :=
    List.all_eq_false.mpr ⟨x, hx, by simp [MountItem.takenBy, hk]⟩
  cases hs : m.start with
  | binding b => exact hknown (x := .binding) (by simp) (hs ▸ trivial)
  | root y => exact hknown (x := .mount) (by simp) (hs ▸ trivial)
  | render y =>
    rcases List.mem_cons.mp (m.bound y hs) with hname | hname
    · exact hknown (x := .mount) (by simp) (hs ▸ hname)
    · exact hknown (x := .render y.name.text) (by simp [hns, hname]) (hs ▸ rfl)

/-- What the searches leave are the ordinary lines. -/
theorem ordinary?_eq_of_taken {xs : List Search}
    (h : ∀ m : Mount names, (MountItem.mount m).untaken xs = false) (i : MountItem names) :
    i.ordinary? = (Option.some i |>.filter (MountItem.untaken xs)).map MountItem.text := by
  cases i with
  | mount m => simp [Option.filter, h m, MountItem.ordinary?]
  | line l =>
    have hline : (MountItem.line l).untaken xs = true :=
      List.all_eq_true.mpr fun x _ => by simp [MountItem.takenBy]
    simp [Option.filter, hline, MountItem.ordinary?, MountItem.text]

theorem mountText_filter {xs : List Search}
    (h : ∀ m : Mount names, (MountItem.mount m).untaken xs = false) :
    mountText (items.filter (MountItem.untaken xs)) (last.filter (MountItem.untaken xs)) =
      unlines (items.filterMap MountItem.ordinary?)
        ((last.bind MountItem.ordinary?).getD []) := by
  have hitems : (items.filter (MountItem.untaken xs)).map MountItem.text =
      items.filterMap MountItem.ordinary? := by
    induction items with
    | nil => rfl
    | cons i items ih =>
      rw [List.filter_cons, List.filterMap_cons, ordinary?_eq_of_taken h i, ← ih]
      cases hi : i.untaken xs <;> simp [Option.filter, hi]
  have hlast : (last.filter (MountItem.untaken xs)).elim [] MountItem.text =
      (last.bind MountItem.ordinary?).getD [] := by
    cases last with
    | none => rfl
    | some i =>
      rw [Option.bind_some, ordinary?_eq_of_taken h i]
      cases hi : i.untaken xs <;> simp [Option.filter, hi]
  rw [mountText, hitems, hlast]

/-- The names of a source are names that a variable can have. -/
theorem MountSource.named (p : MountSource) {n : Text} (hn : n ∈ p.names) :
    (Search.render n).Named := by
  obtain ⟨i, -, hi⟩ := (p.bound n).mp hn
  cases i with
  | line l => exact absurd hi (by simp [MountItem.boundName?])
  | mount m =>
    simp only [MountItem.boundName?] at hi
    split at hi
    · next b _ => exact ⟨b.name, Option.some.inj hi⟩
    · exact absurd hi (by simp)

theorem arguments_of_plain {s : Text}
    (h : ∀ c ∈ s, isQuote c = false ∧ c ≠ ofChar '(' ∧ c ≠ ofChar ')') : Arguments s := by
  induction s with
  | nil => exact .nil
  | cons c s ih =>
    rw [List.forall_mem_cons] at h
    exact .plain h.1.1 h.1.2.1 h.1.2.2 (ih h.2)

theorem all_blank_space : ∀ c ∈ ofString " ", c.isBlank = true := by decide

theorem all_blank_nil : ∀ c ∈ ([] : Text), c.isBlank = true := by decide

def oneSpace : Gap := ⟨⟨" ", all_blank_space⟩, by decide⟩

def emptyBlanks : Blanks := ⟨[], all_blank_nil⟩

def emptyIndent : Indent := ⟨[], by simp⟩

def rootName : VariableName := ⟨'r', "oot", by decide, by decide⟩

/-- The statement that makes the root of a page. -/
def rootStatement : Mount [rootName.text] where
  indent := emptyIndent
  start := .binding ⟨.constWord, oneSpace, rootName, emptyBlanks, emptyBlanks, none, .createRoot,
    emptyBlanks⟩
  calls := "(node)"
  isCalls := .one ⟨"node", arguments_of_plain (by decide), rfl⟩
  ending := ⟨emptyIndent, true, emptyIndent⟩
  bound := by simp
  inner u h := absurd (h.subset List.mem_cons_self) (by decide)

/-- The statement that renders a component at the root. -/
def renderStatement : Mount [rootName.text] where
  indent := emptyIndent
  start := .render ⟨rootName, emptyBlanks, emptyBlanks, emptyBlanks⟩
  calls := "(App)"
  isCalls := .one ⟨"App", arguments_of_plain (by decide), rfl⟩
  ending := ⟨emptyIndent, false, emptyIndent⟩
  bound r h := by
    cases h
    simp
  inner u h := absurd (h.subset List.mem_cons_self) (by decide)

/-- A component between the statements that mount it. -/
def mountedPage : MountSource where
  names := [rootName.text]
  items := [.mount rootStatement,
    .line ⟨"function App() \x7b", by decide, by decide, by decide, fun h => absurd h (by decide)⟩]
  last := some (.mount renderStatement)
  bound n := by
    simp [MountItem.boundName?, rootStatement, renderStatement, eq_comm]

example : mountedPage.text =
    "const root=createRoot(node);\nfunction App() \x7b\nroot.render(App)" := by decide

example : stripMountCalls mountedPage.text = "function App() \x7b\n" := by decide +kernel

end Sources

end SitePreview.Source
