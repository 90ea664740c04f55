import Mathlib.Data.List.TakeWhile
import SitePreview.Proofs.Source.ItemForms

/-! Elimination of module statements. Each of the edits that the passes make takes the items of one
kind and passes over those that are left to later ones, so the passes together leave exactly what is
left of each item, in the same order. -/

namespace SitePreview.Source

open Text CodePoint

variable {e r s u : Text} {items : List Item} {last : Option Item}

/-- The place of the edit that takes an item in the order of the edits, and a later one for what
stays. -/
def Item.stage : Item → Nat
  | importFrom .. => 1
  | importEffect .. => 2
  | exported _ _ (.all ..) => 3
  | exported _ _ (.list ..) => 4
  | exported _ _ (.default ..) => 5
  | exported _ _ (.defaultName ..) => 6
  | exported _ _ (.declaration ..) => 7
  | declared .. => 8
  | line _ => 8

/-- What the edit at one place leaves of an item. -/
def Item.afterStage (k : Nat) (i : Item) : Option Item := if i.stage = k then i.rest? else some i

section From

theorem firstToken_append_lineEnd (he : LineEnd e r) :
    firstToken (s ++ e) = firstToken s ∨ s.isBlank = true := by
  rw [firstToken, skipBlanks, List.dropWhile_append]
  split
  · next h => exact .inr (by simpa [Text.isBlank, List.dropWhile_eq_nil_iff] using h)
  · exact .inl (takeWhile_append_lineEnd _ he)

theorem fromClause?_indent (i : Indent) (ht : notAhead CodePoint.isBlank u = true)
    (hu : after? "from" u = none) : fromClause? (i.text ++ u) = none := by
  have hskip : skipBlanks (i.text ++ u) = u :=
    dropWhile_append_stop (fun c hc => isBlank_of_isInlineBlank (i.all_inline c hc)) ht
  rw [fromClause?, hskip, hu]
  rfl

theorem fromClause?_item (i : Item) (he : LineEnd e r) (hfree : fromClause? e = none) :
    fromClause? (i.text ++ e) = none := by
  cases i with
  | importFrom indent | importEffect indent | exported indent =>
    rw [Item.text, List.append_assoc]
    exact fromClause?_indent indent rfl rfl
  | declared indent k b =>
    have hblank := k.notAhead_blank (b.notAhead he)
    have hfrom : after? "from" (k.text ++ (b.text ++ e)) = none := by
      rcases k with ((_ | gap) | _) | _ | _ | _ <;> rfl
    rw [Item.text, List.append_assoc, List.append_assoc]
    exact fromClause?_indent indent hblank hfrom
  | line l =>
    rcases firstToken_append_lineEnd (s := l.text) he with hfirst | hblank
    · rw [Option.eq_none_iff_forall_ne_some]
      intro t ht
      have hword : firstToken l.text = "from" := hfirst.symm.trans (firstToken_of_fromClause? ht)
      exact l.firstToken_ne (by simp [hword])
    · have hskip : skipBlanks (l.text ++ e) = skipBlanks e :=
        List.dropWhile_append_of_pos (List.all_eq_true.mp hblank)
      rw [Item.text, fromClause?, hskip]
      exact hfree

/-- A source of items does not go on with `from`. -/
theorem fromClause?_source (items : List Item) (last : Option Item) :
    fromClause? (source items last) = none := by
  induction items with
  | nil =>
    cases last with
    | none => rfl
    | some i =>
      have h := fromClause?_item i .stop rfl
      rwa [List.append_nil] at h
  | cons i items ih => exact fromClause?_item i (.feed _) ih

end From

/-- The edit makes of the items of its stage what is left of them and finds none of the later
ones. -/
structure Takes (edit : Text → Option Edit) (k : Nat) : Prop where
  guarded : Guarded edit
  takes : ∀ {i : Item} {e r : Text}, i.stage = k → LineEnd e r → fromClause? e = none →
    editFrom edit true (i.text ++ e) =
      i.rest?.elim (editFrom edit true r) fun j => j.text ++ editFrom edit false e
  leaves : ∀ {i : Item} {e r : Text}, k < i.stage → LineEnd e r → edit (i.text ++ e) = none

section Runs

variable {edit : Text → Option Edit} {k : Nat}

theorem Item.passes (hedit : Guarded edit) {i : Item} (hi : 1 < i.stage) (he : LineEnd e r) :
    Passes edit i.text e := by
  cases i with
  | importFrom => exact absurd hi (Nat.lt_irrefl 1)
  | importEffect indent b sp en =>
    refine (passes_of_no_lineFeed indent.no_lineFeed _).append
      (.append (passes_of_no_lineFeed (by decide) _) (.append ?_
        (.append (sp.passes _) (passes_of_no_lineFeed en.no_lineFeed e))))
    refine passes_separators hedit b.all_separator ?_
    rw [List.append_assoc]
    exact sp.not_opening _
  | exported indent g x =>
    exact (passes_of_no_lineFeed indent.no_lineFeed _).append
      (.append (passes_of_no_lineFeed (by decide) _) (.append
        (passes_separators hedit g.all_separator (x.not_opening he)) (x.passes hedit he)))
  | declared indent k b =>
    exact (passes_of_no_lineFeed indent.no_lineFeed _).append (passes_declaration hedit k b he)
  | line l => exact passes_of_no_lineFeed l.no_lineFeed e

/-- One edit on one item: what is left of it stays in front of what follows. -/
theorem Takes.editFrom_item (h : Takes edit k) {i : Item} (hk : 1 ≤ k) (hi : k ≤ i.stage)
    (he : LineEnd e r) (hfree : fromClause? e = none) :
    editFrom edit true (i.text ++ e) =
      (i.afterStage k).elim (editFrom edit true r) fun j => j.text ++ editFrom edit false e := by
  rw [Item.afterStage]
  split
  · next hstage => exact h.takes hstage he hfree
  · next hstage =>
    have hlt : k < i.stage := by omega
    rw [Option.elim_some, editFrom_eq_false (h.leaves hlt he)]
    exact Item.passes h.guarded (by omega) he

theorem editFrom_lineFeed (edit : Text → Option Edit) (s : Text) :
    editFrom edit false (ofChar '\n' :: s) = ofChar '\n' :: editFrom edit true s := by
  rw [editFrom_cons_of_none (by simp)]
  simp

/-- One edit on a source of items. -/
theorem Takes.editLines_source (h : Takes edit k) (hk : 1 ≤ k) (hitems : ∀ i ∈ items, k ≤ i.stage)
    (hlast : ∀ i ∈ last, k ≤ i.stage) :
    editLines edit (source items last) =
      source (items.filterMap (Item.afterStage k)) (last.bind (Item.afterStage k)) := by
  have hnil (b : Bool) : editFrom edit b [] = [] := by rw [editFrom]
  rw [editLines]
  induction items with
  | nil =>
    cases last with
    | none => exact hnil true
    | some i =>
      have hi := h.editFrom_item hk (hlast i rfl) .stop rfl
      rw [List.append_nil, hnil, hnil] at hi
      rw [source, hi, List.filterMap_nil, Option.bind_some]
      cases i.afterStage k with
      | none => rfl
      | some j => exact List.append_nil j.text
  | cons i items ih =>
    rw [List.forall_mem_cons] at hitems
    have hfree : fromClause? (ofChar '\n' :: source items last) = none :=
      fromClause?_source items last
    rw [source, h.editFrom_item hk hitems.1 (.feed _) hfree, editFrom_lineFeed, ih hitems.2,
      List.filterMap_cons]
    cases i.afterStage k <;> rfl

/-- What an edit leaves waits for a later one. -/
theorem lt_stage_of_afterStage {i j : Item} (hk : k < 8) (hi : k ≤ i.stage)
    (h : i.afterStage k = some j) : k < j.stage := by
  rw [Item.afterStage] at h
  split at h
  · cases i with
    | importFrom | importEffect => simp [Item.rest?] at h
    | exported indent g x =>
      cases x <;> simp only [Item.rest?, Option.some.injEq, reduceCtorEq] at h <;> exact h ▸ hk
    | declared | line => exact absurd hk (by simp_all [Item.stage])
  · next hne =>
    obtain rfl := Option.some.inj h
    omega

end Runs

/-- What no edit takes opens no module statement. -/
theorem Item.not_opening {i : Item} (hi : 8 ≤ i.stage) (he : LineEnd e r) :
    ¬Opening (i.text ++ e) := by
  cases i with
  | importFrom | importEffect => simp [Item.stage] at hi
  | exported indent g x => cases x <;> simp [Item.stage] at hi
  | declared indent k b =>
    have hindent : ∀ c ∈ indent.text, isSeparator c = true := fun c hc => by
      simp [isSeparator, isBlank_of_isInlineBlank (indent.all_inline c hc)]
    rw [Item.text, List.append_assoc, List.append_assoc]
    exact not_opening_separators hindent (k.not_opening (b.notAhead he))
  | line l => exact l.not_opening he

section Edits

variable {statement words : Text → Option Text} {k : Nat}

theorem editFrom_of_some {edit : Text → Option Edit} {x : Edit} (h : edit u = some x)
    (hlt : x.rest.length < u.length) :
    editFrom edit true u = x.kept ++ editFrom edit x.atLineStart x.rest := by
  cases u with
  | nil => exact absurd hlt (Nat.not_lt_zero _)
  | cons c u =>
    rw [editFrom]
    simp only [if_true, h]
    exact if_pos hlt

/-- An edit that is made at module statements only need not look at the items that are none. -/
theorem Guarded.leaves {edit : Text → Option Edit} (hedit : Guarded edit)
    (hnone : ∀ {i : Item} {e r : Text}, k < i.stage → i.stage < 8 → LineEnd e r →
      edit (i.text ++ e) = none)
    {i : Item} (hi : k < i.stage) (he : LineEnd e r) : edit (i.text ++ e) = none := by
  by_cases hlast : i.stage < 8
  · exact hnone hi hlast he
  · exact hedit _ (Item.not_opening (Nat.le_of_not_lt hlast) he)

theorem guarded_map (hguard : ∀ u, ¬Opening u → statement u = none) (f : Text → Text → Edit) :
    Guarded fun s => (statement s).map (f s) := fun u hu => by
  simp only [hguard u hu, Option.map_none]

/-- Removing statements takes the items that are recognised. -/
theorem takes_removeStatements (hc : Consumes statement)
    (hguard : ∀ u, ¬Opening u → statement u = none)
    (hsome : ∀ {i : Item} {e r : Text}, i.stage = k → LineEnd e r → fromClause? e = none →
      i.rest? = none ∧ statement (i.text ++ e) = some r)
    (hnone : ∀ {i : Item} {e r : Text}, k < i.stage → i.stage < 8 → LineEnd e r →
      statement (i.text ++ e) = none) :
    Takes (fun s => (statement s).map .remove) k where
  guarded := guarded_map hguard fun _ => .remove
  takes hi he hfree := by
    obtain ⟨hrest, hstatement⟩ := hsome hi he hfree
    have hlt := (hc _ _ hstatement).2
    rw [hrest, editFrom_of_some (x := .remove _) (by rw [hstatement, Option.map_some]) hlt]
    rfl
  leaves hi he := (guarded_map hguard fun _ => .remove).leaves
    (fun hi hlast he => by simp only [hnone hi hlast he, Option.map_none]) hi he

/-- Removing the words in front of declarations takes the items that are recognised. -/
theorem takes_removeLeadingWords (hc : Consumes words)
    (hguard : ∀ u, ¬Opening u → words (skipInline u) = none)
    (hsome : ∀ {i : Item} {e r : Text}, i.stage = k → LineEnd e r →
      ∃ indent keyword body, i.rest? = some (.declared indent keyword body) ∧
        (i.text ++ e).takeWhile isInlineBlank = indent.text ∧
        words (skipInline (i.text ++ e)) = some (keyword.text ++ (body.text ++ e)))
    (hnone : ∀ {i : Item} {e r : Text}, k < i.stage → i.stage < 8 → LineEnd e r →
      words (skipInline (i.text ++ e)) = none) :
    Takes (fun s => (words (skipInline s)).map fun rest =>
      ⟨s.takeWhile isInlineBlank, rest, false⟩) k := by
  have hguarded : Guarded fun s => (words (skipInline s)).map fun rest =>
      ⟨s.takeWhile isInlineBlank, rest, false⟩ :=
    guarded_map hguard fun s rest => ⟨s.takeWhile isInlineBlank, rest, false⟩
  refine ⟨hguarded, fun {i e r} hi he _ => ?_, fun hi he => hguarded.leaves ?_ hi he⟩
  · obtain ⟨indent, keyword, body, hrest, hindent, hwords⟩ := hsome hi he
    have hlt := (hc _ _ hwords).2
    have hle := (skipInline_suffix (i.text ++ e)).length_le
    rw [editFrom_of_some (by rw [hwords, Option.map_some]) (by simp only; omega), hrest, hindent,
      ← List.append_assoc keyword.text, passes_declaration hguarded keyword body he]
    simp [Item.text]
  · intro i e r hi hlast he
    simp only [hnone hi hlast he, Option.map_none]

theorem takes_importFrom : Takes (fun s => (importFrom? s).map .remove) 1 := by
  refine takes_removeStatements importFrom?_consumes (fun _ => importFrom?_eq_none) ?_ ?_
  · intro i e r hi he _
    cases i with
    | importFrom indent g type x o => exact ⟨rfl, importFrom?_item indent g type x o he⟩
    | importEffect | declared | line => simp [Item.stage] at hi
    | exported indent g x => cases x <;> simp [Item.stage] at hi
  · intro i e r hi hlast he
    cases i with
    | importFrom => simp [Item.stage] at hi
    | importEffect indent b s en => exact importFrom?_importEffect indent b s en e
    | exported indent g x => exact importFrom?_exported indent g x e
    | declared | line => simp [Item.stage] at hlast

theorem takes_importEffect : Takes (fun s => (importEffect? s).map .remove) 2 := by
  refine takes_removeStatements importEffect?_consumes (fun _ => importEffect?_eq_none) ?_ ?_
  · intro i e r hi he _
    cases i with
    | importEffect indent b s en => exact ⟨rfl, importEffect?_item indent b s en he⟩
    | importFrom | declared | line => simp [Item.stage] at hi
    | exported indent g x => cases x <;> simp [Item.stage] at hi
  · intro i e r hi hlast he
    cases i with
    | importFrom | importEffect => simp [Item.stage] at hi
    | exported indent g x => exact importEffect?_exported indent g x e
    | declared | line => simp [Item.stage] at hlast

theorem takes_exportStar : Takes (fun s => (exportStar? s).map .remove) 3 := by
  refine takes_removeStatements exportStar?_consumes (fun _ => exportStar?_eq_none) ?_ ?_
  · intro i e r hi he _
    cases i with
    | importFrom | importEffect | declared | line => simp [Item.stage] at hi
    | exported indent g x =>
      cases x with
      | all gap name o => exact ⟨rfl, exportStar?_item indent g gap name o he⟩
      | list | defaultName | default | declaration => simp [Item.stage] at hi
  · intro i e r hi hlast he
    cases i with
    | importFrom | importEffect => simp [Item.stage] at hi
    | exported indent g x =>
      refine exportStar?_other indent g ?_ he
      rintro gap name o rfl
      simp [Item.stage] at hi
    | declared | line => simp [Item.stage] at hlast

theorem takes_exportList : Takes (fun s => (exportList? s).map .remove) 4 := by
  refine takes_removeStatements exportList?_consumes (fun _ => exportList?_eq_none) ?_ ?_
  · intro i e r hi he hfree
    cases i with
    | importFrom | importEffect | declared | line => simp [Item.stage] at hi
    | exported indent g x =>
      cases x with
      | list type b origin => exact ⟨rfl, exportList?_item indent g type b origin he hfree⟩
      | all | defaultName | default | declaration => simp [Item.stage] at hi
  · intro i e r hi hlast he
    cases i with
    | importFrom | importEffect => simp [Item.stage] at hi
    | exported indent g x =>
      cases x with
      | all | list => simp [Item.stage] at hi
      | defaultName gap n en => exact exportList?_defaultName indent g gap n en he
      | default gap d b => exact exportList?_default indent g gap d b he
      | declaration k b => exact exportList?_declaration indent g k b he
    | declared | line => simp [Item.stage] at hlast

theorem takeWhile_exported (i : Indent) (g : Gap) (x : Export) (e : Text) :
    ((Item.exported i g x).text ++ e).takeWhile isInlineBlank = i.text := by
  rw [Item.text, List.append_assoc]
  exact takeWhile_append_stop i.all_inline rfl

theorem takes_defaultExport : Takes (fun s => (defaultExport? (skipInline s)).map fun rest =>
    ⟨s.takeWhile isInlineBlank, rest, false⟩) 5 := by
  refine takes_removeLeadingWords defaultExport?_consumes (fun _ => defaultExport?_eq_none) ?_ ?_
  · intro i e r hi he
    cases i with
    | importFrom | importEffect | declared | line => simp [Item.stage] at hi
    | exported indent g x =>
      cases x with
      | default gap d b =>
        exact ⟨indent, .definition d, b, rfl, takeWhile_exported indent g _ e,
          defaultExport?_item indent g gap d b he⟩
      | all | list | defaultName | declaration => simp [Item.stage] at hi
  · intro i e r hi hlast he
    cases i with
    | importFrom | importEffect => simp [Item.stage] at hi
    | exported indent g x =>
      cases x with
      | all | list | default => simp [Item.stage] at hi
      | defaultName gap n en => exact defaultExport?_defaultName indent g gap n en he
      | declaration k b => exact defaultExport?_declaration indent g k b he
    | declared | line => simp [Item.stage] at hlast

theorem takes_defaultExportName : Takes (fun s => (defaultExportName? s).map .remove) 6 := by
  refine takes_removeStatements defaultExportName?_consumes (fun _ => defaultExportName?_eq_none)
    ?_ ?_
  · intro i e r hi he _
    cases i with
    | importFrom | importEffect | declared | line => simp [Item.stage] at hi
    | exported indent g x =>
      cases x with
      | defaultName gap n en => exact ⟨rfl, defaultExportName?_item indent g gap n en he⟩
      | all | list | default | declaration => simp [Item.stage] at hi
  · intro i e r hi hlast he
    cases i with
    | importFrom | importEffect => simp [Item.stage] at hi
    | exported indent g x =>
      cases x with
      | all | list | default | defaultName => simp [Item.stage] at hi
      | declaration k b => exact defaultExportName?_declaration indent g k b he
    | declared | line => simp [Item.stage] at hlast

theorem takes_namedExport : Takes (fun s => (namedExport? (skipInline s)).map fun rest =>
    ⟨s.takeWhile isInlineBlank, rest, false⟩) 7 := by
  refine takes_removeLeadingWords namedExport?_consumes (fun _ => namedExport?_eq_none) ?_ ?_
  · intro i e r hi he
    cases i with
    | importFrom | importEffect | declared | line => simp [Item.stage] at hi
    | exported indent g x =>
      cases x with
      | declaration k b =>
        exact ⟨indent, k, b, rfl, takeWhile_exported indent g _ e,
          namedExport?_item indent g k b he⟩
      | all | list | default | defaultName => simp [Item.stage] at hi
  · intro i e r hi hlast he
    cases i with
    | importFrom | importEffect => simp [Item.stage] at hi
    | exported indent g x => cases x <;> simp [Item.stage] at hi
    | declared | line => simp [Item.stage] at hlast

end Edits

section Passes

theorem one_le_stage (i : Item) : 1 ≤ i.stage := by
  cases i with
  | importFrom | importEffect | declared | line => simp [Item.stage]
  | exported indent g x => cases x <;> simp [Item.stage]

/-- What the edits of the given stages leave of an item, one after another. -/
def Item.afterStages : List Nat → Item → Option Item
  | [], i => some i
  | k :: ks, i => (i.afterStage k).bind (afterStages ks)

theorem afterStages_eq_rest? : Item.afterStages [1, 2, 3, 4, 5, 6, 7] = Item.rest? := by
  funext i
  cases i with
  | importFrom | importEffect | declared | line => rfl
  | exported indent g x => cases x <;> rfl

/-- The edits take the items of one stage after another. -/
def TakeFrom : Nat → List (Text → Option Edit) → Prop
  | _, [] => True
  | k, edit :: edits => Takes edit k ∧ TakeFrom (k + 1) edits

/-- Edits of successive stages on a source of items. -/
theorem foldl_editLines_source {k : Nat} {edits : List (Text → Option Edit)}
    (h : TakeFrom k edits) (hk : 1 ≤ k) (hlen : k + edits.length ≤ 8)
    (hitems : ∀ i ∈ items, k ≤ i.stage) (hlast : ∀ i ∈ last, k ≤ i.stage) :
    edits.foldl (fun s edit => editLines edit s) (source items last) =
      source (items.filterMap (Item.afterStages (List.range' k edits.length)))
        (last.bind (Item.afterStages (List.range' k edits.length))) := by
  induction edits generalizing k items last with
  | nil =>
    have hsome : Item.afterStages [] = some := rfl
    simp [hsome]
  | cons edit edits ih =>
    rw [List.length_cons] at hlen
    have hitems' : ∀ j ∈ items.filterMap (Item.afterStage k), k + 1 ≤ j.stage := by
      intro j hj
      obtain ⟨i, hi, hj⟩ := List.mem_filterMap.mp hj
      exact lt_stage_of_afterStage (by omega) (hitems i hi) hj
    have hlast' : ∀ j ∈ last.bind (Item.afterStage k), k + 1 ≤ j.stage := by
      intro j hj
      obtain ⟨i, hi, hj⟩ := Option.bind_eq_some_iff.mp hj
      exact lt_stage_of_afterStage (by omega) (hlast i hi) hj
    rw [List.foldl_cons, h.1.editLines_source hk hitems hlast, ih h.2 (by omega) (by omega) hitems'
      hlast', List.length_cons, List.range'_succ, List.filterMap_filterMap, Option.bind_assoc]
    rfl

/-- The edits that the passes for module statements make, in their order. -/
def moduleEdits : List (Text → Option Edit) :=
  let removes (statement : Text → Option Text) (s : Text) : Option Edit :=
    (statement s).map .remove
  let unwraps (words : Text → Option Text) (s : Text) : Option Edit :=
    (words (skipInline s)).map fun rest => ⟨s.takeWhile isInlineBlank, rest, false⟩
  [removes importFrom?, removes importEffect?, removes exportStar?, removes exportList?,
    unwraps defaultExport?, removes defaultExportName?, unwraps namedExport?]

theorem takeFrom_moduleEdits : TakeFrom 1 moduleEdits :=
  ⟨takes_importFrom, takes_importEffect, takes_exportStar, takes_exportList, takes_defaultExport,
    takes_defaultExportName, takes_namedExport, trivial⟩

/-- Module statements whose keywords have no white space behind them, and a default export of a name
beyond ASCII. -/
def tightStatements : List Text :=
  [ofString "import\x7ba\x7d from \"x\"", ofString "export\x7ba\x7d",
    ofString "export type\x7ba\x7d", ofString "export*from \"x\"",
    ofString "export *from \"x\"", ofString "export default é"]

end Passes

end SitePreview.Source
