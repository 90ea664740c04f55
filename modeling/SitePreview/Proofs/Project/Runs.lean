import SitePreview.Proofs.Project.Storable

/-! The parts of routines, run from a sound state: how they end, what the actor remembers then, and
which store calls got through. A state stays sound behind each of them. -/

namespace SitePreview

theorem Cache.put_of_room {α : Type} {c : Cache α} (h : 1 ≤ c.policy.capacity) (now : Seconds)
    (key : CacheKey) (value : α) :
    ∃ c', c.put now key value = some c' ∧ c'.policy = c.policy := by
  unfold put
  split
  · exact ⟨c, rfl, rfl⟩
  dsimp only
  split
  · next hfull =>
    -- a full cache has an entry, for it has room for one
    cases hes : c.entries with
    | nil =>
      simp only [hes, List.length_nil, Bool.and_eq_true, decide_eq_true_eq] at hfull
      omega
    | cons e es => exact ⟨_, rfl, rfl⟩
  · exact ⟨_, rfl, rfl⟩

theorem Cache.get_policy {α : Type} (c : Cache α) (now : Seconds) (key : CacheKey) :
    (c.get now key).2.policy = c.policy := by
  unfold get
  split
  · rfl
  split
  · rfl
  · split <;> rfl

/-- The cache, if there is one, has room for an entry. -/
def Backend.Roomy (b : Backend) : Prop := ∀ c ∈ b.cache, 1 ≤ c.policy.capacity

/-- The store fails in ways that callers bear, there is room in the cache, and every row of the
store is one that it can keep. -/
structure Backend.Sound (b : Backend) : Prop where
  bearable : b.faults.Bearable
  roomy : b.Roomy
  rows : ∀ r ∈ b.database.projects.rows, r.Storable

/-- The actor remembers nothing that the store cannot keep. -/
structure Memory.Sound (m : Memory) : Prop where
  record : ∀ r ∈ m.record, r.Storable
  nameKind : m.nameKind = .text

namespace Backend

variable {b : Backend} {s : ProjectSetup}

/-- Version records are kept, and the store takes one now. -/
def appends (b : Backend) (s : ProjectSetup) : Bool := s.keepsVersions && b.reaches .appendVersion

/-- Version records are kept, and the store removes some now. -/
def purges (b : Backend) (s : ProjectSetup) : Bool := s.keepsVersions && b.reaches .eraseVersions

/-- There is a record to append, and the store takes one now. -/
def takes (b : Backend) (v : Option VersionRecord) : Bool := v.isSome && b.reaches .appendVersion

/-- The shared state behind the attempt to append a record, if there is one. -/
def offered (b : Backend) : Option VersionRecord → Backend
  | none => b
  | some v => if b.reaches .appendVersion then b.applied (.appendVersion v) else b

/-- The shared state behind the attempt to save a project. -/
def saved (b : Backend) (s : ProjectSetup) (r : ProjectRecord) : Backend :=
  if s.keepsProjects && b.reaches .saveProject then b.applied (.saveProject r) else b

/-- The shared state behind the attempt to remove a project. -/
def forgotten (b : Backend) (s : ProjectSetup) (project : Text) : Backend :=
  if s.keepsProjects && b.reaches .eraseProject then b.applied (.eraseProject project) else b

/-- The shared state behind the attempt to remove the version records of a project. -/
def purged (b : Backend) (s : ProjectSetup) (project : Text) : Backend :=
  if b.purges s then b.applied (.eraseVersions project) else b

end Backend

def Backend.withCache (b : Backend) (c : Option (Cache Cached)) : Backend := { b with cache := c }

/-- The actor remembers this record, or none, with a name that is a text. -/
def Memory.holding (m : Memory) (r : Option ProjectRecord) : Memory :=
  { m with record := r, nameKind := .text }

namespace Backend

variable {b : Backend}

theorem withCache_of_eq {c : Option (Cache Cached)} (h : b.cache = c) : b.withCache c = b := by
  subst h
  rfl

/-- The shared state without what is cached of a project. -/
def invalidated (b : Backend) (project : Text) : Backend :=
  b.withCache (b.cache.map fun c => c.invalidate project)

/-- The shared state with a value cached, if there is room for it. -/
def cached (b : Backend) (project kind : Text) (value : Cached) : Backend :=
  b.withCache (b.cache.map fun c => (c.put b.clock.steady ⟨kind, project⟩ value).getD c)

/-- The shared state with files and their summary cached. -/
def refreshed (b : Backend) (project : Text) (files : FileSet) : Backend :=
  ((b.invalidated project).cached project Operation.filesKind (.files files)).cached project
    Operation.summaryKind (.summary files.summary)

theorem Roomy.invalidated (h : b.Roomy) (project : Text) : (b.invalidated project).Roomy := by
  intro x hx
  obtain ⟨c, hc, rfl⟩ := Option.map_eq_some_iff.mp hx
  exact h c hc

theorem Roomy.cached (h : b.Roomy) (project kind : Text) (value : Cached) :
    (b.cached project kind value).Roomy := by
  intro x hx
  obtain ⟨c, hc, rfl⟩ := Option.map_eq_some_iff.mp hx
  obtain ⟨c', hput, hpolicy⟩ := Cache.put_of_room (h c hc) b.clock.steady ⟨kind, project⟩ value
  rw [hput]
  exact hpolicy ▸ h c hc

theorem Roomy.refreshed (h : b.Roomy) (project : Text) (files : FileSet) :
    (b.refreshed project files).Roomy :=
  ((h.invalidated project).cached _ _ _).cached _ _ _

end Backend

/-- What the actor remembers once it has asked for its record, if it had not before. -/
def Memory.asked (m : Memory) (s : ProjectSetup) (project : Text) (b : Backend) : Memory :=
  if m.loaded then m
  else if s.keepsProjects && b.reaches .loadProject then
    { m with record := b.database.projects.get? project, loaded := true }
  else { m with loaded := true }

namespace ProjectTable

variable {t : ProjectTable} {now : Timestamp} {r : ProjectRecord}

theorem storable_get? {project : Text} (ht : ∀ row ∈ t.rows, row.Storable)
    (h : t.get? project = some r) : r.Storable :=
  ht r (List.mem_of_find?_eq_some h)

theorem storable_newRow (hr : r.Storable) (now : Timestamp) : (newRow now r).Storable := by
  rw [newRow, storedFiles_of_legal hr.files]
  exact ⟨hr.project, hr.owner, hr.name, hr.template, hr.files, hr.hash⟩

theorem storable_updatedRow (hr : r.Storable) (now : Timestamp) (row : ProjectRecord) :
    (updatedRow now row r).Storable := by
  rw [updatedRow, storedFiles_of_legal hr.files]
  exact ⟨hr.project, hr.owner, hr.name, hr.template, hr.files, hr.hash⟩

theorem storable_save (ht : ∀ row ∈ t.rows, row.Storable) (hr : r.Storable) :
    ∀ row ∈ (t.save now r).rows, row.Storable :=
  forall_mem_save ht (storable_newRow hr now) (storable_updatedRow hr now)

theorem storable_erase (ht : ∀ row ∈ t.rows, row.Storable) (project : Text) :
    ∀ row ∈ (t.erase project).rows, row.Storable :=
  fun row hrow => ht row (List.mem_of_mem_filter hrow)

end ProjectTable

namespace Backend.Sound

variable {b : Backend} {s : ProjectSetup}

theorem offered (h : b.Sound) (v : Option VersionRecord) : (b.offered v).Sound := by
  cases v with
  | none => exact h
  | some v =>
    rw [Backend.offered]
    split
    · exact ⟨h.bearable, h.roomy, h.rows⟩
    · exact h

theorem saved {r : ProjectRecord} (h : b.Sound) (hr : r.Storable) : (b.saved s r).Sound := by
  rw [Backend.saved]
  split
  · exact ⟨h.bearable, h.roomy, ProjectTable.storable_save h.rows hr⟩
  · exact h

theorem forgotten (h : b.Sound) (project : Text) : (b.forgotten s project).Sound := by
  rw [Backend.forgotten]
  split
  · exact ⟨h.bearable, h.roomy, ProjectTable.storable_erase h.rows project⟩
  · exact h

theorem purged (h : b.Sound) (project : Text) : (b.purged s project).Sound := by
  rw [Backend.purged]
  split
  · exact ⟨h.bearable, h.roomy, h.rows⟩
  · exact h

theorem withCache {c : Option (Cache Cached)} (h : b.Sound) (hc : (b.withCache c).Roomy) :
    (b.withCache c).Sound :=
  ⟨h.bearable, hc, h.rows⟩

theorem invalidated (h : b.Sound) (project : Text) : (b.invalidated project).Sound :=
  h.withCache (h.roomy.invalidated project)

theorem refreshed (h : b.Sound) (project : Text) (files : FileSet) :
    (b.refreshed project files).Sound :=
  ⟨h.bearable, h.roomy.refreshed project files, h.rows⟩

end Backend.Sound

theorem Memory.Sound.asked {m : Memory} {b : Backend} (hm : m.Sound) (hb : b.Sound)
    (s : ProjectSetup) (project : Text) : (m.asked s project b).Sound := by
  rw [Memory.asked]
  split
  · exact hm
  split
  · exact ⟨fun r hr => ProjectTable.storable_get? hb.rows hr, hm.nameKind⟩
  · exact ⟨hm.record, hm.nameKind⟩

theorem Memory.sound_empty : ({} : Memory).Sound := ⟨fun _ h => (nomatch h), rfl⟩

theorem Memory.sound_holding {m : Memory} {r : Option ProjectRecord} (hr : ∀ x ∈ r, x.Storable) :
    (m.holding r).Sound :=
  ⟨hr, rfl⟩

namespace Operation

open Routine

variable {s : ProjectSetup} {project : Text} {m m' : Memory} {b : Backend}

theorem run_ensureLoaded (hf : b.faults.Bearable) (hp : project.isUtf8 = true) :
    (ensureLoaded s project).run m b = (.ok (), m.asked s project b, b) := by
  rw [ensureLoaded, run_memory_bind, Memory.asked]
  cases hl : m.loaded with
  | true => rfl
  | false =>
    simp only [Bool.false_eq_true, if_false, run_setMemory_bind]
    cases hs : s.keepsProjects with
    | false => rfl
    | true =>
      simp only [Bool.not_true, Bool.false_eq_true, if_false, run_ask_bind, Bool.true_and]
      cases hb : b.reaches .loadProject with
      | false =>
        obtain ⟨e, he, hcall⟩ := Backend.perform_of_not_reaches (c := .loadProject project) hf hb
        simp [hcall, he]
      | true =>
        rw [Backend.perform_of_reaches (c := .loadProject project) hb
          (StoreCall.plain_of_texts rfl hp)]
        rfl

/-- An actor that asks for its record is told of it, or goes on without it, or fails; the last only
if the store is out of reach or cannot write the name of the project. -/
theorem run_ensureLoaded_cases (s : ProjectSetup) (project : Text) (m : Memory) (b : Backend) :
    (ensureLoaded s project).run m b = (.ok (), m.asked s project b, b) ∨
      m.loaded = false ∧ (b.reaches .loadProject = true → project.isUtf8 = false) ∧
        ∃ e, (ensureLoaded s project).run m b = (.error e, { m with loaded := true }, b) := by
  rw [ensureLoaded, run_memory_bind, Memory.asked]
  cases hl : m.loaded with
  | true => exact .inl rfl
  | false =>
    cases hs : s.keepsProjects with
    | false => exact .inl rfl
    | true =>
      simp only [Bool.false_eq_true, if_false, run_setMemory_bind, Bool.not_true, run_ask_bind,
        Bool.true_and, true_and]
      cases hb : b.reaches .loadProject with
      | true =>
        rw [Backend.perform_eq_of_reaches (c := .loadProject project) hb]
        cases hpu : project.isUtf8 with
        | true =>
          rw [Database.encodeError?_eq_none (StoreCall.plain_of_texts rfl hpu)]
          exact .inl rfl
        | false =>
          cases Database.encodeError? (.loadProject project) with
          | none => exact .inl rfl
          | some x => exact .inr ⟨fun _ => rfl, _, rfl⟩
      | false =>
        obtain ⟨e, hcall, -⟩ :=
          Backend.exists_error_of_not_reaches (c := .loadProject project) hb
        rw [hcall]
        cases he : e.isOutage with
        | true => exact .inl (by simp [he])
        | false => exact .inr ⟨fun h => absurd h Bool.false_ne_true, .store e, by simp [he]⟩

/-- Once the record was asked for, it is there or it is not. -/
theorem run_current_of_load (h : (ensureLoaded s project).run m b = (.ok (), m', b)) :
    (current s project).run m b =
      match m'.record with
      | some r => (.ok r, m', b)
      | none => (.error (.notFound project), m', b) := by
  rw [current, run_bind_ok _ h, require, run_memory_bind]
  cases m'.record <;> rfl

theorem run_current (hf : b.faults.Bearable) (hp : project.isUtf8 = true) :
    (current s project).run m b =
      match (m.asked s project b).record with
      | some r => (.ok r, m.asked s project b, b)
      | none => (.error (.notFound project), m.asked s project b, b) :=
  run_current_of_load (run_ensureLoaded hf hp)

theorem run_persist {r : ProjectRecord} (hf : b.faults.Bearable) (hr : r.Storable) :
    (persist s r).run m b = (.ok (), m, b.saved s r) := by
  rw [persist, Backend.saved]
  cases hs : s.keepsProjects with
  | false => rfl
  | true =>
    cases hb : b.reaches .saveProject with
    | false => exact run_askOr_of_not_reaches (c := .saveProject r) () hf hb
    | true =>
      exact run_askOr_of_reaches (c := .saveProject r) () hb (ProjectRecord.plain_saveProject hr)

theorem run_invalidate (project : Text) :
    (invalidate project).run m b = (.ok (), m, b.invalidated project) := by
  rw [invalidate, run_cache_bind, Backend.invalidated]
  cases hc : b.cache with
  | none => exact congrArg (fun b => (Except.ok (), m, b)) (Backend.withCache_of_eq hc).symm
  | some c => rfl

theorem run_store (project kind : Text) (value : Cached) (hb : b.Roomy) :
    (store project kind value).run m b = (.ok (), m, b.cached project kind value) := by
  rw [store, run_cache_bind, Backend.cached]
  cases hc : b.cache with
  | none => exact congrArg (fun b => (Except.ok (), m, b)) (Backend.withCache_of_eq hc).symm
  | some c =>
    obtain ⟨c', hput, -⟩ := Cache.put_of_room (hb c hc) b.clock.steady ⟨kind, project⟩ value
    simp [hput]
    rfl

theorem run_refresh (project : Text) (files : FileSet) (hb : b.Roomy) :
    (refresh project files).run m b = (.ok files.summary, m, b.refreshed project files) := by
  have hinvalidated := hb.invalidated project
  rw [refresh, run_bind_ok _ (run_invalidate project), run_bind_ok _ (run_store _ _ _ hinvalidated),
    run_bind_ok _ (run_store _ _ _ (hinvalidated.cached _ _ _)), run_pure]
  rfl

theorem run_store_cases (project kind : Text) (value : Cached) :
    ∃ c, (store project kind value).run m b = (.ok (), m, b.withCache c) ∨
      (store project kind value).run m b = (.error .noRoom, m, b.withCache c) := by
  rw [store, run_cache_bind]
  cases b.cache with
  | none => exact ⟨b.cache, .inl rfl⟩
  | some c =>
    dsimp only
    rw [run_clock_bind]
    cases c.put b.clock.steady ⟨kind, project⟩ value with
    | some c' => exact ⟨some c', .inl rfl⟩
    | none => exact ⟨b.cache, .inr rfl⟩

theorem run_refresh_cases (project : Text) (files : FileSet) :
    (∃ c, (refresh project files).run m b = (.ok files.summary, m, b.withCache c)) ∨
      ¬b.Roomy ∧ ∃ c, (refresh project files).run m b = (.error .noRoom, m, b.withCache c) := by
  by_cases hroomy : b.Roomy
  · exact .inl ⟨_, run_refresh project files hroomy⟩
  rw [refresh, run_bind_ok _ (run_invalidate project)]
  obtain ⟨c, h | h⟩ := run_store_cases (m := m) (b := b.invalidated project) project filesKind
    (.files files)
  · obtain ⟨c', h' | h'⟩ := run_store_cases (m := m) (b := (b.invalidated project).withCache c)
      project summaryKind (.summary files.summary)
    · exact .inl ⟨c', by rw [run_bind_ok _ h, run_bind_ok _ h', run_pure]; rfl⟩
    · exact .inr ⟨hroomy, c', by rw [run_bind_ok _ h, run_bind_error _ h']; rfl⟩
  · exact .inr ⟨hroomy, c, by rw [run_bind_error _ h]; rfl⟩

theorem run_accept (project : Text) {r : ProjectRecord} (hf : b.faults.Bearable) (hb : b.Roomy)
    (hr : r.Storable) :
    (accept s project r .text).run m b =
      (.ok (), m.holding (some r), (b.saved s r).refreshed project r.files) := by
  have hsaved : (b.saved s r).Roomy := by
    rw [Backend.saved]
    split <;> exact hb
  rw [accept, run_memory_bind, run_setMemory_bind, if_pos (by decide),
    run_bind_ok _ (run_persist hf hr)]
  exact run_discard (run_refresh project r.files hsaved)

end Operation

end SitePreview
