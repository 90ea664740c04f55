import SitePreview.Proofs.Source.BlankLines
import SitePreview.Proofs.Source.LineStarts
import SitePreview.Proofs.Text.Lists
import SitePreview.Source.Normal

/-! Settled sources. No pass of normalisation adds anything to a source, so the passes together
leave a source alone exactly when each one does, that is when no line of it starts with anything
that a pass removes. A normal source need not be settled: what two passes leave on both sides of a
deletion can be a statement for an earlier pass. -/

namespace SitePreview.Source

open Text CodePoint

variable {s t : Text}

theorem DeletesOnly.comp {f g : Text → Text} (hg : DeletesOnly g) (hf : DeletesOnly f) :
    DeletesOnly fun s => g (f s) := fun s => (hg (f s)).trans (hf s)

/-- What one pass deletes no later one brings back. -/
theorem comp_eq_self_iff {f g : Text → Text} (hg : DeletesOnly g) (hf : DeletesOnly f) (s : Text) :
    g (f s) = s ↔ f s = s ∧ g s = s := by
  constructor
  · intro h
    have hs : s.Sublist (f s) := by simpa only [h] using hg (f s)
    have hfs : f s = s := (hf s).antisymm hs
    exact ⟨hfs, by rwa [hfs] at h⟩
  · rintro ⟨hf, hg⟩
    rw [hf, hg]

section Folds

variable {α : Type} {f : α → Text → Text}

theorem deletesOnly_foldl {as : List α} (hf : ∀ a ∈ as, DeletesOnly (f a)) :
    DeletesOnly fun s => as.foldl (fun s a => f a s) s := by
  induction as with
  | nil => exact List.Sublist.refl
  | cons a as ih =>
    rw [List.forall_mem_cons] at hf
    exact (ih hf.2).comp hf.1

theorem foldl_eq_self_iff {as : List α} (hf : ∀ a ∈ as, DeletesOnly (f a)) (s : Text) :
    as.foldl (fun s a => f a s) s = s ↔ ∀ a ∈ as, f a s = s := by
  induction as with
  | nil => simp
  | cons a as ih =>
    rw [List.forall_mem_cons] at hf ⊢
    rw [← ih hf.2]
    exact comp_eq_self_iff (deletesOnly_foldl hf.2) hf.1 s

end Folds

section LineEnds

theorem normalizeLineEnds_deletesOnly : DeletesOnly normalizeLineEnds := by
  intro s
  fun_induction normalizeLineEnds s with
  | case1 => exact List.Sublist.refl []
  | case2 c s _ ih => exact ih.cons c
  | case3 c s _ ih => exact ih.cons_cons c

theorem normalizeLineEnds_eq_self_iff (s : Text) :
    normalizeLineEnds s = s ↔ ∀ u v, s ≠ u ++ ofChar '\r' :: ofChar '\n' :: v := by
  induction s with
  | nil => simp [normalizeLineEnds]
  | cons c s ih =>
    rw [normalizeLineEnds]
    split
    · next h =>
      obtain ⟨rfl, hhead⟩ := h
      obtain ⟨v, rfl⟩ : ∃ v, s = ofChar '\n' :: v := List.head?_eq_some_iff.mp hhead
      constructor
      · intro h
        have hlen := (normalizeLineEnds_deletesOnly (ofChar '\n' :: v)).length_le
        rw [h, List.length_cons] at hlen
        omega
      · intro h
        exact absurd rfl (h [] v)
    · next h =>
      rw [List.cons_inj_right, ih]
      constructor
      · intro hs u v huv
        cases u with
        | nil =>
          obtain ⟨rfl, rfl⟩ := List.cons.inj huv
          exact h ⟨rfl, rfl⟩
        | cons d u => exact hs u v (List.cons.inj huv).2
      · intro hs u v huv
        exact hs (c :: u) v (by rw [huv, List.cons_append])

end LineEnds

section Names

theorem mem_findFrom {α : Type} {find : Text → Option (α × Text)} {b : Bool} {a : α}
    (h : a ∈ findFrom find b s) : ∃ u r, find u = some (a, r) := by
  fun_induction findFrom find b s with
  | case1 => simp at h
  | case2 b c s _ ih => exact ih h
  | case3 b c s a' rest hfind _ ih =>
    rcases List.mem_cons.mp h with rfl | h
    · cases b with
      | false => simp at hfind
      | true => exact ⟨_, rest, hfind⟩
    · exact ih h
  | case4 b c s a' rest _ _ ih => exact ih h

/-- The name of a root is one word. -/
theorem rootNames_no_paren {name : Text} (h : name ∈ rootNames s) : ofChar '(' ∉ name := by
  obtain ⟨u, r, hu⟩ := mem_findFrom (mem_distinct.mp h)
  obtain ⟨⟨n, opened⟩, hb, he⟩ := Option.map_eq_some_iff.mp hu
  obtain ⟨rfl, rfl⟩ := Prod.mk.inj he
  exact (rootBinding?_spec hb).2.2

end Names

namespace Pass

/-- The source holds nothing at the start of a line that the pass removes, and for the last pass
its blank lines are collapsed. -/
def Settled : Pass → Text → Prop
  | imports, s => ∀ u ∈ lineStarts s, importFrom? u = none ∧ importEffect? u = none
  | reexports, s => ∀ u ∈ lineStarts s, exportStar? u = none ∧ exportList? u = none
  | defaultExports, s => ∀ u ∈ lineStarts s,
    defaultExport? (skipInline u) = none ∧ defaultExportName? u = none
  | namedExports, s => ∀ u ∈ lineStarts s, namedExport? (skipInline u) = none
  | mountCalls, s => ∀ u ∈ lineStarts s,
    removable? (fun s => (rootBinding? s).map Prod.snd) u = none ∧ removable? mountCall? u = none ∧
      ∀ name ∈ rootNames s, removable? (rootRender? name) u = none
  | blankLines, s => ∃ ls last, s = unlines ls last ∧ (∀ l ∈ ls, ofChar '\n' ∉ l) ∧
    ofChar '\n' ∉ last ∧ Collapsed ls last

theorem rootRenders_deletesOnly (s : Text) :
    ∀ name ∈ rootNames s, DeletesOnly (removeCalls (rootRender? name)) := fun _ hname =>
  removeCalls_deletesOnly (rootRender?_opens (rootNames_no_paren hname))

theorem run_deletesOnly (p : Pass) : DeletesOnly p.run := by
  cases p with
  | imports =>
    intro s
    exact (removeStatements_deletesOnly importEffect?_consumes _).trans
      (removeStatements_deletesOnly importFrom?_consumes s)
  | reexports =>
    intro s
    exact (removeStatements_deletesOnly exportList?_consumes _).trans
      (removeStatements_deletesOnly exportStar?_consumes s)
  | defaultExports =>
    intro s
    exact (removeStatements_deletesOnly defaultExportName?_consumes _).trans
      (removeLeadingWords_deletesOnly defaultExport?_consumes s)
  | namedExports => exact removeLeadingWords_deletesOnly namedExport?_consumes
  | mountCalls =>
    intro s
    exact (deletesOnly_foldl (rootRenders_deletesOnly s) _).trans
      ((removeCalls_deletesOnly mountCall?_opens _).trans
        (removeCalls_deletesOnly rootBinding?_opens s))
  | blankLines => exact collapseBlankLines_sublist

/-- A pass leaves alone exactly the sources that are settled for it. -/
theorem run_eq_self_iff (p : Pass) (s : Text) : p.run s = s ↔ p.Settled s := by
  cases p with
  | imports =>
    rw [run, stripImports, comp_eq_self_iff (removeStatements_deletesOnly importEffect?_consumes)
      (removeStatements_deletesOnly importFrom?_consumes),
      removeStatements_eq_self_iff importFrom?_consumes,
      removeStatements_eq_self_iff importEffect?_consumes]
    exact forall₂_and.symm
  | reexports =>
    rw [run, stripReexports, comp_eq_self_iff (removeStatements_deletesOnly exportList?_consumes)
      (removeStatements_deletesOnly exportStar?_consumes),
      removeStatements_eq_self_iff exportStar?_consumes,
      removeStatements_eq_self_iff exportList?_consumes]
    exact forall₂_and.symm
  | defaultExports =>
    rw [run, unwrapDefaultExports,
      comp_eq_self_iff (removeStatements_deletesOnly defaultExportName?_consumes)
        (removeLeadingWords_deletesOnly defaultExport?_consumes),
      removeLeadingWords_eq_self_iff defaultExport?_consumes,
      removeStatements_eq_self_iff defaultExportName?_consumes]
    exact forall₂_and.symm
  | namedExports => exact removeLeadingWords_eq_self_iff namedExport?_consumes s
  | mountCalls =>
    rw [run, stripMountCalls,
      comp_eq_self_iff (deletesOnly_foldl (rootRenders_deletesOnly s))
        ((removeCalls_deletesOnly mountCall?_opens).comp
          (removeCalls_deletesOnly rootBinding?_opens)),
      comp_eq_self_iff (removeCalls_deletesOnly mountCall?_opens)
        (removeCalls_deletesOnly rootBinding?_opens),
      foldl_eq_self_iff (rootRenders_deletesOnly s),
      removeCalls_eq_self_iff rootBinding?_opens, removeCalls_eq_self_iff mountCall?_opens]
    have hrender : (∀ name ∈ rootNames s, removeCalls (rootRender? name) s = s) ↔
        ∀ u ∈ lineStarts s, ∀ name ∈ rootNames s, removable? (rootRender? name) u = none := by
      rw [forall₂_comm]
      exact forall₂_congr fun name hname =>
        removeCalls_eq_self_iff (rootRender?_opens (rootNames_no_paren hname)) s
    rw [hrender, and_assoc, ← forall₂_and, ← forall₂_and]
    rfl
  | blankLines => exact collapseBlankLines_eq_self_iff s

end Pass

theorem passes_deletesOnly : DeletesOnly fun s => Pass.all.foldl (fun s p => p.run s) s :=
  deletesOnly_foldl fun p _ => p.run_deletesOnly

/-- Normalisation keeps some of the characters of a source in their order. -/
theorem normalize_deletesOnly : DeletesOnly normalize :=
  passes_deletesOnly.comp normalizeLineEnds_deletesOnly

/-- Normalisation leaves alone exactly the sources that have line feeds for line ends and are
settled for every pass. -/
theorem normalize_eq_self_iff (s : Text) :
    normalize s = s ↔
      (∀ u v, s ≠ u ++ ofChar '\r' :: ofChar '\n' :: v) ∧ ∀ p : Pass, p.Settled s := by
  rw [normalize, comp_eq_self_iff passes_deletesOnly normalizeLineEnds_deletesOnly,
    normalizeLineEnds_eq_self_iff, foldl_eq_self_iff fun p _ => p.run_deletesOnly]
  refine and_congr_right fun _ => ⟨fun h p => ?_, fun h p _ => ?_⟩
  · exact (p.run_eq_self_iff s).mp (h p (by cases p <;> decide))
  · exact (p.run_eq_self_iff s).mpr (h p)

/-- The last pass leaves every source settled for itself. -/
theorem blankLines_settled_normalize (s : Text) : Pass.blankLines.Settled (normalize s) := by
  rw [← Pass.run_eq_self_iff]
  exact collapseBlankLines_idem _

/-- Normalising a second time changes nothing exactly when no line of the first result starts with
a statement that one of the passes removes and no line of it ends in a carriage return. -/
theorem normalize_normalize_eq_iff (s : Text) :
    normalize (normalize s) = normalize s ↔
      (∀ u v, normalize s ≠ u ++ ofChar '\r' :: ofChar '\n' :: v) ∧
        ∀ p : Pass, p ≠ .blankLines → p.Settled (normalize s) := by
  rw [normalize_eq_self_iff]
  refine and_congr_right fun _ => ⟨fun h p _ => h p, fun h p => ?_⟩
  by_cases hp : p = .blankLines
  · rw [hp]
    exact blankLines_settled_normalize s
  · exact h p hp

/-- The word that is left of an export stands in front of the next declaration. -/
theorem normalize_split_export_ne :
    normalize (normalize "export\nexport const a = 1;") ≠
      normalize "export\nexport const a = 1;" := by
  decide +kernel

end SitePreview.Source
