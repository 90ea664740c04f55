import SitePreview.Proofs.Project.Operations

/-! What an operation leaves as it was: the rows of all other projects, the faults of the store and
the clock. Of its own project, a record that follows from the row of the store comes back from the
store as it was saved. -/

namespace SitePreview

namespace ProjectTable

variable {t : ProjectTable} {now : Timestamp} {r : ProjectRecord} {project : Text}

theorem get?_append_newRow (t : ProjectTable) (now : Timestamp) (r : ProjectRecord)
    (project : Text) :
    get? { rows := t.rows ++ [newRow now r] } project =
      (t.get? project).or (if r.projectId = project then some (newRow now r) else none) := by
  rw [get?, List.find?_append]
  by_cases hp : r.projectId = project
  · simp [get?, newRow, hp]
  · simp [get?, newRow, hp]

/-- A changed row keeps its project, so it is found where it was. -/
theorem get?_map_updatedRow (t : ProjectTable) (now : Timestamp) (r : ProjectRecord)
    (project : Text) :
    get? { rows := t.rows.map fun row =>
        if row.projectId = r.projectId then updatedRow now row r else row } project =
      (t.get? project).map fun row =>
        if row.projectId = r.projectId then updatedRow now row r else row := by
  rw [get?, List.find?_map, get?]
  congr 2
  funext row
  rw [Function.comp_apply]
  split
  · next h => exact congrArg (fun p => decide (p = project)) h.symm
  · rfl

/-- A saved project has a row of its own; of the others all stay as they were. -/
theorem get?_save (t : ProjectTable) (now : Timestamp) (r : ProjectRecord) (project : Text) :
    (t.save now r).get? project =
      if project = r.projectId then
        some (match t.get? project with
          | none => newRow now r
          | some row => updatedRow now row r)
      else t.get? project := by
  rw [save]
  cases hrow : t.get? r.projectId with
  | none =>
    dsimp only
    rw [get?_append_newRow]
    by_cases hp : project = r.projectId
    · subst hp
      simp [hrow]
    · simp [hp, Ne.symm hp]
  | some row =>
    dsimp only
    rw [get?_map_updatedRow]
    by_cases hp : project = r.projectId
    · subst hp
      simp [hrow, projectId_of_get? hrow]
    · cases hq : t.get? project with
      | none => simp [hp]
      | some row => simp [hp, projectId_of_get? hq]

theorem get?_erase (t : ProjectTable) (project other : Text) :
    (t.erase project).get? other = if other = project then none else t.get? other := by
  rw [erase, get?, List.find?_filter]
  split
  · next h =>
    subst h
    rw [List.find?_eq_none]
    simp
  · next h =>
    rw [get?]
    congr 1
    funext row
    by_cases hrow : row.projectId = other
    · simp [hrow, h]
    · simp [hrow]

theorem withTimes_self {created updated : Timestamp} (hc : r.createdAt = created)
    (hu : r.updatedAt = updated) : { r with createdAt := created, updatedAt := updated } = r := by
  rw [← hc, ← hu]

/-- A record that follows from the row of its project comes back as it was saved, if the clock shows
universal time. -/
theorem get?_save_of_succeeds (h : r.Succeeds project now (t.get? project))
    (hnow : now.asUtc = now) : (t.save now r).get? project = some r := by
  have hfiles := storedFiles_of_legal h.intact.files
  have hcreated := h.created
  rw [get?_save, if_pos h.intact.project.symm]
  cases hrow : t.get? project with
  | none =>
    rw [hrow] at hcreated
    have hutc : r.createdAt.asUtc = now := (congrArg Timestamp.asUtc hcreated).trans hnow
    simp only [newRow, hfiles, hnow, hutc]
    exact congrArg some (withTimes_self hcreated h.updated)
  | some row =>
    rw [hrow] at hcreated
    simp only [updatedRow, hfiles, hnow]
    exact congrArg some (withTimes_self hcreated h.updated)

end ProjectTable

/-- Of `b`, all that concerns other projects than this one, the faults of the store and the clock
are as they were in `a`. -/
structure Backend.Frames (project : Text) (a b : Backend) : Prop where
  others : ∀ other, other ≠ project →
    b.database.projects.get? other = a.database.projects.get? other
  tables : b.database.hasTables = a.database.hasTables
  faults : b.faults = a.faults
  clock : b.clock = a.clock

namespace Backend

variable {project : Text} {a b c : Backend} {s : ProjectSetup} {r : ProjectRecord}

theorem Frames.refl (b : Backend) : b.Frames project b := ⟨fun _ _ => rfl, rfl, rfl, rfl⟩

theorem Frames.trans (h : a.Frames project b) (h' : b.Frames project c) : a.Frames project c where
  others p hp := (h'.others p hp).trans (h.others p hp)
  tables := h'.tables.trans h.tables
  faults := h'.faults.trans h.faults
  clock := h'.clock.trans h.clock

theorem Frames.reaches (h : a.Frames project b) (m : StoreMethod) : b.reaches m = a.reaches m := by
  rw [Backend.reaches, Backend.reaches, h.tables, h.faults]

theorem frames_withCache (b : Backend) (c : Option (Cache Cached)) :
    b.Frames project (b.withCache c) := ⟨fun _ _ => rfl, rfl, rfl, rfl⟩

theorem frames_perform {k : StoreCall} (hk : k.Respectful project) (b : Backend) :
    b.Frames project (b.perform k).2 := by
  rcases b.perform_cases k with ⟨e, he⟩ | hok
  · rw [he]
    exact .refl b
  rw [hok]
  cases k with
  | appendVersion | listVersions | eraseVersions | loadProject =>
    exact ⟨fun _ _ => rfl, rfl, rfl, rfl⟩
  | saveProject r =>
    refine ⟨fun p hp => ?_, rfl, rfl, rfl⟩
    exact (ProjectTable.get?_save ..).trans (if_neg fun h => hp (h.trans hk.project))
  | eraseProject q =>
    refine ⟨fun p hp => ?_, rfl, rfl, rfl⟩
    exact (ProjectTable.get?_erase ..).trans (if_neg fun h => hp (h.trans hk))

theorem frames_refreshed (b : Backend) (p : Text) (files : FileSet) :
    b.Frames project (b.refreshed p files) := ⟨fun _ _ => rfl, rfl, rfl, rfl⟩

theorem frames_offered (b : Backend) (v : Option VersionRecord) :
    b.Frames project (b.offered v) := by
  cases v with
  | none => exact .refl b
  | some v =>
    rw [offered]
    split
    · exact ⟨fun _ _ => rfl, rfl, rfl, rfl⟩
    · exact .refl b

theorem frames_saved (b : Backend) (hr : r.projectId = project) :
    b.Frames project (b.saved s r) := by
  rw [saved]
  split
  · refine ⟨fun p hp => ?_, rfl, rfl, rfl⟩
    exact (ProjectTable.get?_save ..).trans (if_neg (hr ▸ hp))
  · exact .refl b

theorem frames_forgotten (b : Backend) : b.Frames project (b.forgotten s project) := by
  rw [forgotten]
  split
  · refine ⟨fun p hp => ?_, rfl, rfl, rfl⟩
    exact (ProjectTable.get?_erase ..).trans (if_neg hp)
  · exact .refl b

theorem frames_purged (b : Backend) : b.Frames project (b.purged s project) := by
  rw [purged]
  split
  · exact ⟨fun _ _ => rfl, rfl, rfl, rfl⟩
  · exact .refl b

theorem frames_lookedUp (b : Backend) : b.Frames project (b.lookedUp project).2 := by
  rw [lookedUp_eq_withCache]
  exact frames_withCache b _

end Backend

namespace Memory

variable {m : Memory} {s : ProjectSetup} {project : Text} {a b : Backend}

theorem asked_loaded (m : Memory) (s : ProjectSetup) (project : Text) (b : Backend) :
    (m.asked s project b).loaded = true := by
  rw [asked]
  split
  · assumption
  split <;> rfl

theorem asked_of_loaded (h : m.loaded = true) : m.asked s project b = m := if_pos h

theorem asked_congr (hreach : b.reaches .loadProject = a.reaches .loadProject)
    (hrow : b.database.projects.get? project = a.database.projects.get? project) :
    m.asked s project b = m.asked s project a := by
  rw [asked, asked, hreach, hrow]

theorem Intact.asked (hm : m.Intact project) (hb : b.Intact) :
    (m.asked s project b).Intact project := by
  rw [Memory.asked]
  split
  · exact hm
  split
  · exact fun r hr => ProjectTable.intact_get? hb hr
  · exact hm

end Memory

end SitePreview
