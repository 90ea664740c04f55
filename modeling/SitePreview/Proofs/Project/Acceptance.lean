import SitePreview.Proofs.Project.Summaries

/-! Accepted records, whatever the store answers: the actor remembers the record, the store is
called to save it at most, and all that may fail besides is the store, or a cache without room. -/

namespace SitePreview

/-- A cache that is in use has room for an entry. -/
def Cache.Spacious {α : Type} (c : Cache α) : Prop :=
  c.policy.enabled = true → 1 ≤ c.policy.capacity

theorem Cache.Spacious.put {α : Type} {c : Cache α} (h : c.Spacious) (now : Seconds)
    (key : CacheKey) (value : α) : ∃ c', c.put now key value = some c' ∧ c'.Spacious := by
  cases henabled : c.policy.enabled with
  | false => exact ⟨c, by simp [Cache.put, henabled], h⟩
  | true =>
    obtain ⟨c', hput, hpolicy⟩ := Cache.put_of_room (h henabled) now key value
    refine ⟨c', hput, ?_⟩
    rw [Spacious, hpolicy]
    exact h

namespace Backend

variable {b : Backend}

/-- The cache, if there is one, is not in use or has room for an entry. -/
def Spacious (b : Backend) : Prop := ∀ c ∈ b.cache, c.Spacious

/-- The shared state behind the call to save a record, if projects are kept and the name is none
that the store cannot keep. -/
def keeping (b : Backend) (s : ProjectSetup) (r : ProjectRecord) (kind : NameKind) : Backend :=
  if s.keepsProjects = true ∧ kind ≠ .compound then (b.perform (.saveProject r)).2 else b

/-- If a record is to be saved, this fails in no way that is not borne. -/
def Bears (b : Backend) (s : ProjectSetup) (r : ProjectRecord) (kind : NameKind) : Prop :=
  s.keepsProjects = true ∧ kind ≠ .compound →
    ∀ e, (b.perform (.saveProject r)).1 = .error e → e.isOutage = true

theorem keeping_eq (b : Backend) (s : ProjectSetup) (r : ProjectRecord) (kind : NameKind) :
    b.keeping s r kind = { b with database := (b.keeping s r kind).database } := by
  rw [keeping]
  split
  · rcases b.perform_cases (.saveProject r) with ⟨e, he⟩ | hok
    · rw [he]
    · rw [hok]
      rfl
  · rfl

theorem keeping_hasTables (b : Backend) (s : ProjectSetup) (r : ProjectRecord) (kind : NameKind) :
    (b.keeping s r kind).database.hasTables = b.database.hasTables := by
  rw [keeping]
  split
  · rcases b.perform_cases (.saveProject r) with ⟨e, he⟩ | hok
    · rw [he]
    · rw [hok]
      rfl
  · rfl

theorem keeping_faults (b : Backend) (s : ProjectSetup) (r : ProjectRecord) (kind : NameKind) :
    (b.keeping s r kind).faults = b.faults := by
  rw [keeping_eq]

theorem keeping_reaches (b : Backend) (s : ProjectSetup) (r : ProjectRecord) (kind : NameKind)
    (method : StoreMethod) : (b.keeping s r kind).reaches method = b.reaches method := by
  rw [reaches, reaches, keeping_faults, keeping_hasTables]

theorem Spacious.invalidated (h : b.Spacious) (project : Text) :
    (b.invalidated project).Spacious := by
  intro x hx
  obtain ⟨c, hc, rfl⟩ := Option.map_eq_some_iff.mp hx
  exact h c hc

/-- A call fails in a way that is borne if its kind is not set to crash and its texts can be written
whenever it gets through. -/
theorem isOutage_of_perform {c : StoreCall} {e : StoreError}
    (hfault : b.faults c.method ≠ some .crash) (hplain : b.reaches c.method = true → c.Plain)
    (h : (b.perform c).1 = .error e) : e.isOutage = true := by
  cases hb : b.reaches c.method with
  | true =>
    rw [perform_of_reaches hb (hplain hb)] at h
    cases h
  | false =>
    cases hm : b.faults c.method with
    | some kind =>
      rw [perform, hm] at h
      cases h
      cases kind with
      | unavailable | system => rfl
      | crash => exact absurd hm hfault
    | none =>
      have ht : b.database.hasTables = false := by simpa [reaches, hm] using hb
      rw [perform, hm] at h
      simp only [Database.perform, ht, Bool.not_false, if_true] at h
      cases h
      rfl

end Backend

namespace Operation

open Routine

variable {s : ProjectSetup} {project : Text} {m : Memory} {b : Backend}

theorem run_store_of_space (hb : b.Spacious) (project kind : Text) (value : Cached) :
    ∃ c, (store project kind value).run m b = (.ok (), m, b.withCache c) ∧
      (b.withCache c).Spacious := by
  rw [store, run_cache_bind]
  cases hc : b.cache with
  | none =>
    refine ⟨none, ?_, fun c hnone => ?_⟩
    · rw [Backend.withCache_of_eq hc]
      rfl
    · cases hnone
  | some c =>
    obtain ⟨c', hput, hspace⟩ := (hb c hc).put b.clock.steady ⟨kind, project⟩ value
    refine ⟨some c', by simp [hput]; rfl, ?_⟩
    rintro x ⟨⟩
    exact hspace

theorem run_refresh_of_space (hb : b.Spacious) (project : Text) (files : FileSet) :
    ∃ c, (refresh project files).run m b = (.ok files.summary, m, b.withCache c) ∧
      (b.withCache c).Spacious := by
  obtain ⟨c, hfiles, hspace⟩ :=
    run_store_of_space (m := m) (hb.invalidated project) project filesKind (.files files)
  obtain ⟨c', hsummary, hspace'⟩ :=
    run_store_of_space (m := m) hspace project summaryKind (.summary files.summary)
  refine ⟨c', ?_, hspace'⟩
  rw [refresh, run_bind_ok _ (run_invalidate project), run_bind_ok _ hfiles,
    run_bind_ok _ hsummary, run_pure]
  rfl

/-- Refreshing changes the cache at most, and it succeeds if there is room. -/
theorem run_refresh_keeps (project : Text) (files : FileSet) (m : Memory) (b : Backend) :
    ∃ o c, (discard (refresh project files)).run m b = (o, m, b.withCache c) ∧
      (b.Spacious → o = .ok () ∧ (b.withCache c).Spacious) := by
  by_cases hspace : b.Spacious
  · obtain ⟨c, hrun, hspace⟩ := run_refresh_of_space (m := m) hspace project files
    exact ⟨_, c, run_discard hrun, fun _ => ⟨rfl, hspace⟩⟩
  · rcases run_refresh_cases (m := m) (b := b) project files with ⟨c, hrun⟩ | ⟨-, c, hrun⟩
    · exact ⟨_, c, run_discard hrun, fun h => absurd h hspace⟩
    · exact ⟨_, c, run_discard_error hrun, fun h => absurd h hspace⟩

/-- A call that may be out of reach succeeds if all its failures are borne. -/
theorem run_askOr_of_borne (c : StoreCall) (whenOut : c.Reply) (m : Memory) (b : Backend) :
    ∃ o, (askOr c whenOut).run m b = (o, m, (b.perform c).2) ∧
      ((∀ e, (b.perform c).1 = .error e → e.isOutage = true) → ∃ reply, o = .ok reply) := by
  rw [askOr, run]
  rcases b.perform c with ⟨e | reply, b'⟩
  · dsimp only
    cases hout : e.isOutage with
    | true => exact ⟨.ok whenOut, rfl, fun _ => ⟨_, rfl⟩⟩
    | false =>
      refine ⟨.error (.store e), rfl, fun hborne => ?_⟩
      rw [hborne e rfl] at hout
      cases hout
  · exact ⟨.ok reply, rfl, fun _ => ⟨_, rfl⟩⟩

/-- Saving a record is one call, if projects are kept, and succeeds if the store bears it. -/
theorem run_persist_keeps {r : ProjectRecord} {kind : NameKind} (hkind : kind ≠ .compound)
    (m : Memory) (b : Backend) :
    ∃ o, (persist s r).run m b = (o, m, b.keeping s r kind) ∧ (b.Bears s r kind → o = .ok ()) := by
  rw [persist, Backend.keeping, Backend.Bears]
  cases s.keepsProjects with
  | false => exact ⟨.ok (), rfl, fun _ => rfl⟩
  | true =>
    rw [if_pos ⟨rfl, hkind⟩]
    obtain ⟨o, hrun, hok⟩ := run_askOr_of_borne (.saveProject r) () m b
    refine ⟨o, hrun, fun hbears => ?_⟩
    obtain ⟨reply, hreply⟩ := hok (hbears ⟨rfl, hkind⟩)
    exact hreply

/-- A record that is accepted is remembered and handed to the store. This succeeds if the store
bears it and the cache has room. -/
theorem run_accept_keeps (s : ProjectSetup) (project : Text) (r : ProjectRecord) (kind : NameKind)
    (m : Memory) (b : Backend) :
    ∃ o c, (accept s project r kind).run m b =
        (o, { m with record := some r, nameKind := kind }, (b.keeping s r kind).withCache c) ∧
      (b.Spacious → b.Bears s r kind →
        o = .ok () ∧ ((b.keeping s r kind).withCache c).Spacious) := by
  have hspacious (hb : b.Spacious) : (b.keeping s r kind).Spacious := by
    rw [Backend.keeping_eq]
    exact hb
  rw [accept, run_memory_bind, run_setMemory_bind]
  generalize { m with record := some r, nameKind := kind } = m'
  obtain ⟨o, c, hrefresh, hroom⟩ := run_refresh_keeps project r.files m' (b.keeping s r kind)
  by_cases hkind : kind = .compound
  · have hkeeping : b.keeping s r kind = b := if_neg fun h => h.2 hkind
    rw [if_neg (not_not.mpr hkind)]
    rw [hkeeping] at hrefresh hroom ⊢
    exact ⟨o, c, hrefresh, fun hb _ => hroom hb⟩
  · obtain ⟨saved, hsave, hok⟩ := run_persist_keeps (s := s) (r := r) hkind m' b
    rw [if_pos hkind]
    cases saved with
    | ok u => exact ⟨o, c, (run_bind_ok _ hsave).trans hrefresh, fun hb _ => hroom (hspacious hb)⟩
    | error e =>
      refine ⟨.error e, _, run_bind_error _ hsave, fun _ hbears => ?_⟩
      cases hok hbears

end Operation

end SitePreview
