import SitePreview.Project.Edit
import Mathlib.Data.List.Induction

/-! Batches of edits. What one edit does is said by a relation, and what a batch does is what its
edits do one after another, each on the files that those before it have left. -/

namespace SitePreview.FileEdit

variable {files mid after : FileSet} {e : FileEdit} {es es' : List FileEdit} {result : EditResult}
  {results : List EditResult}

/-- What one edit does: its result, and the files behind it. -/
inductive Does (files : FileSet) (e : FileEdit) : EditResult → FileSet → Prop
  /-- The path or the content is none that a snapshot can hold. -/
  | refused {error : EntryError} (hentry : entryError? e.path e.content = some error) :
      Does files e { path := e.path, error := some (.entry error) } files
  | written {c : Text} (hentry : entryError? e.path e.content = none)
      (haction : e.action = .create ∨ e.action = .update) (hc : e.content = some c) :
      Does files e { path := e.path } (files.insert e.path c)
  | unwritten (hentry : entryError? e.path e.content = none)
      (haction : e.action = .create ∨ e.action = .update) (hc : e.content = none) :
      Does files e { path := e.path, error := some .contentMissing } files
  | deleted {c : Text} (hentry : entryError? e.path e.content = none) (haction : e.action = .delete)
      (hc : files.get? e.path = some c) : Does files e { path := e.path } (files.erase e.path)
  | read {c : Text} (hentry : entryError? e.path e.content = none) (haction : e.action = .read)
      (hc : files.get? e.path = some c) : Does files e { path := e.path, content := some c } files
  | missing (hentry : entryError? e.path e.content = none)
      (haction : e.action = .delete ∨ e.action = .read) (hc : files.get? e.path = none) :
      Does files e { path := e.path, error := some .fileMissing } files

/-- The files behind an edit. -/
def leaves (e : FileEdit) (files : FileSet) : FileSet := (e.apply files).2.getD files

theorem does_apply (files : FileSet) (e : FileEdit) :
    Does files e (e.apply files).1 (e.leaves files) := by
  obtain ⟨path, action, content⟩ := e
  rw [leaves, apply]
  cases hentry : entryError? path content with
  | some error => exact .refused hentry
  | none =>
    cases action with
    | create =>
      cases content with
      | none => exact .unwritten hentry (.inl rfl) rfl
      | some c => exact .written hentry (.inl rfl) rfl
    | update =>
      cases content with
      | none => exact .unwritten hentry (.inr rfl) rfl
      | some c => exact .written hentry (.inr rfl) rfl
    | delete =>
      dsimp only
      cases hc : files.get? path with
      | none => exact .missing hentry (.inl rfl) hc
      | some c => exact .deleted hentry rfl hc
    | read =>
      dsimp only
      cases hc : files.get? path with
      | none => exact .missing hentry (.inr rfl) hc
      | some c => exact .read hentry rfl hc

/-- An edit does one thing only. -/
theorem Does.eq_apply (h : Does files e result after) :
    result = (e.apply files).1 ∧ after = e.leaves files := by
  obtain ⟨path, action, content⟩ := e
  rw [leaves, apply]
  cases h with
  | refused hentry =>
    rw [hentry]
    exact ⟨rfl, rfl⟩
  | written hentry haction hc =>
    cases hc
    rw [hentry]
    rcases haction with rfl | rfl <;> exact ⟨rfl, rfl⟩
  | unwritten hentry haction hc =>
    cases hc
    rw [hentry]
    rcases haction with rfl | rfl <;> exact ⟨rfl, rfl⟩
  | deleted hentry haction hc =>
    cases haction
    rw [hentry]
    dsimp only
    rw [hc]
    exact ⟨rfl, rfl⟩
  | read hentry haction hc =>
    cases haction
    rw [hentry]
    dsimp only
    rw [hc]
    exact ⟨rfl, rfl⟩
  | missing hentry haction hc =>
    rw [hentry]
    rcases haction with rfl | rfl
    · dsimp only
      rw [hc]
      exact ⟨rfl, rfl⟩
    · dsimp only
      rw [hc]
      exact ⟨rfl, rfl⟩

theorem Does.path_eq (h : Does files e result after) : result.path = e.path := by
  cases h <;> rfl

/-- An edit that changes the files is one that was not refused and does not read. -/
theorem apply_eq_none_iff :
    (e.apply files).2 = none ↔ ((e.apply files).1.error = none → e.action = .read) := by
  obtain ⟨path, action, content⟩ := e
  rw [apply]
  cases entryError? path content with
  | some error => simp
  | none =>
    cases action with
    | create | update => cases content <;> simp
    | delete | read => cases files.get? path <;> simp

/-- What edits do one after another, each on the files behind those before it. -/
inductive DoesAll (files : FileSet) : List FileEdit → List EditResult → FileSet → Prop
  | nil : DoesAll files [] [] files
  | snoc {es : List FileEdit} {results : List EditResult} {mid after : FileSet} {e : FileEdit}
      {result : EditResult} (hes : DoesAll files es results mid) (he : Does mid e result after) :
      DoesAll files (es ++ [e]) (results ++ [result]) after

/-- The files behind a batch. -/
def leavesAll (es : List FileEdit) (files : FileSet) : FileSet :=
  es.foldl (fun files e => e.leaves files) files

theorem leavesAll_cons (e : FileEdit) (es : List FileEdit) (files : FileSet) :
    leavesAll (e :: es) files = leavesAll es (e.leaves files) := rfl

theorem applyAll_cons (files : FileSet) (e : FileEdit) (es : List FileEdit) :
    applyAll files (e :: es) =
      ((e.apply files).1 :: (applyAll (e.leaves files) es).1,
        (applyAll (e.leaves files) es).2.orElse fun _ => (e.apply files).2) := rfl

theorem leavesAll_append (es es' : List FileEdit) (files : FileSet) :
    leavesAll (es ++ es') files = leavesAll es' (leavesAll es files) :=
  List.foldl_append

theorem applyAll_fst_append (es es' : List FileEdit) (files : FileSet) :
    (applyAll files (es ++ es')).1 =
      (applyAll files es).1 ++ (applyAll (leavesAll es files) es').1 := by
  induction es generalizing files with
  | nil => rfl
  | cons e es ih => exact congrArg (List.cons _) (ih (e.leaves files))

/-- The files of a batch are those that it leaves, or none if it changes none. -/
theorem applyAll_snd_getD (es : List FileEdit) (files : FileSet) :
    (applyAll files es).2.getD files = leavesAll es files := by
  induction es generalizing files with
  | nil => rfl
  | cons e es ih =>
    rw [applyAll_cons, leavesAll_cons, ← ih (e.leaves files)]
    dsimp only
    cases (applyAll (e.leaves files) es).2 <;> rfl

theorem doesAll_applyAll (files : FileSet) (es : List FileEdit) :
    DoesAll files es (applyAll files es).1 (leavesAll es files) := by
  induction es using List.reverseRecOn with
  | nil => exact .nil
  | append_singleton es e ih =>
    rw [applyAll_fst_append, leavesAll_append]
    exact .snoc ih (does_apply (leavesAll es files) e)

/-- A batch does one thing only. -/
theorem DoesAll.eq_applyAll (h : DoesAll files es results after) :
    results = (applyAll files es).1 ∧ after = leavesAll es files := by
  induction h with
  | nil => exact ⟨rfl, rfl⟩
  | snoc hes he ih =>
    obtain ⟨rfl, rfl⟩ := ih
    obtain ⟨rfl, rfl⟩ := he.eq_apply
    rw [applyAll_fst_append, leavesAll_append]
    exact ⟨rfl, rfl⟩

/-- There is one result for each edit, in the order of the edits. -/
theorem DoesAll.paths_eq (h : DoesAll files es results after) :
    results.map EditResult.path = es.map FileEdit.path := by
  induction h with
  | nil => rfl
  | snoc hes he ih => rw [List.map_append, List.map_append, ih, List.map_singleton, he.path_eq]; rfl

/-- By these results no edit has set or removed a file. -/
def Idle (es : List FileEdit) (results : List EditResult) : Prop :=
  ∀ x ∈ es.zip results, x.2.error = none → x.1.action = .read

/-- A batch changes no files exactly if none of its edits does. -/
theorem applyAll_eq_none_iff :
    (applyAll files es).2 = none ↔ Idle es (applyAll files es).1 := by
  induction es generalizing files with
  | nil => exact iff_of_true rfl nofun
  | cons e es ih =>
    have hsplit : (applyAll files (e :: es)).2 = none ↔
        (e.apply files).2 = none ∧ (applyAll (e.leaves files) es).2 = none := by
      rw [applyAll_cons]
      cases (applyAll (e.leaves files) es).2 <;> simp
    rw [hsplit, apply_eq_none_iff, ih, applyAll_cons, Idle, Idle, List.zip_cons_cons,
      List.forall_mem_cons]

/-- A batch without a change leaves the files that there were. -/
theorem DoesAll.eq_of_idle (h : DoesAll files es results after) (hidle : Idle es results) :
    after = files := by
  obtain ⟨rfl, rfl⟩ := h.eq_applyAll
  rw [← applyAll_snd_getD, applyAll_eq_none_iff.mpr hidle]
  rfl

end SitePreview.FileEdit
