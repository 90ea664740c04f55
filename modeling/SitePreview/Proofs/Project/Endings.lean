import SitePreview.Proofs.Project.Frames
import SitePreview.Proofs.Project.Summaries

/-! How operations end, whatever their texts and whatever the store answers: there is one ending for
each way through a routine, and every invariant of sessions is read off from these. -/

namespace SitePreview

/-- The project that a call is about. -/
def StoreCall.project : StoreCall → Text
  | appendVersion v => v.projectId
  | saveProject r => r.projectId
  | listVersions p _ | eraseVersions p | loadProject p | eraseProject p => p

/-- From `a` to `b`, nothing but records of the project was written. -/
structure Backend.Stores (project : Text) (a b : Backend) : Prop where
  only : b = { a with database := b.database }
  rows : ∀ other, other ≠ project →
    b.database.projects.get? other = a.database.projects.get? other
  versions : ∀ other, other ≠ project →
    b.database.versions.newestFirst other = a.database.versions.newestFirst other
  tables : b.database.hasTables = a.database.hasTables

/-- From `a` to `b`, nothing but what is cached was changed, and no summary came in. -/
structure Backend.Fades (a b : Backend) : Prop where
  only : b = a.withCache b.cache
  summaries : ∀ p v, b.summaryOf? p = some v → a.summaryOf? p = some v
  roomy : a.Roomy → b.Roomy

namespace VersionTable

variable {t : VersionTable} {project other : Text}

theorem newestFirst_append (v : VersionRecord) (h : other ≠ v.projectId) :
    (t.append v).newestFirst other = t.newestFirst other := by
  simp [newestFirst, append, stored, List.filter_append, Ne.symm h]

theorem newestFirst_erase (h : other ≠ project) :
    (t.erase project).newestFirst other = t.newestFirst other := by
  rw [newestFirst, erase, List.filter_filter, newestFirst]
  refine congrArg (List.mergeSort · _) (List.filter_congr fun row _ => ?_)
  by_cases hrow : row.2.projectId = other
  · simp [hrow, h]
  · simp [hrow]

end VersionTable

namespace Backend

variable {project : Text} {a b c : Backend} {k : StoreCall} {r : ProjectRecord}
  {v : Option VersionRecord}

theorem Stores.refl (b : Backend) : b.Stores project b :=
  ⟨rfl, fun _ _ => rfl, fun _ _ => rfl, rfl⟩

theorem Stores.trans (h : a.Stores project b) (h' : b.Stores project c) : a.Stores project c where
  only := by rw [h'.only, h.only]
  rows p hp := (h'.rows p hp).trans (h.rows p hp)
  versions p hp := (h'.versions p hp).trans (h.versions p hp)
  tables := h'.tables.trans h.tables

theorem Stores.cache (h : a.Stores project b) : b.cache = a.cache := by rw [h.only]

theorem Stores.clock (h : a.Stores project b) : b.clock = a.clock := by rw [h.only]

theorem Stores.roomy (h : a.Stores project b) : b.Roomy ↔ a.Roomy := by
  rw [Roomy, h.cache, Roomy]

theorem Fades.refl (b : Backend) : b.Fades b := ⟨rfl, fun _ _ h => h, id⟩

theorem fades_lookedUp (b : Backend) (p : Text) : b.Fades (b.lookedUp p).2 where
  only := b.lookedUp_eq_withCache p
  summaries _ _ := summaryOf?_of_lookedUp
  roomy h := h.lookedUp p

theorem stores_applied (b : Backend) (k : StoreCall) :
    b.Stores k.project (b.applied k) := by
  cases k with
  | appendVersion v =>
    exact ⟨rfl, fun _ _ => rfl, fun _ hp => VersionTable.newestFirst_append v hp, rfl⟩
  | eraseVersions p =>
    exact ⟨rfl, fun _ _ => rfl, fun _ hp => VersionTable.newestFirst_erase hp, rfl⟩
  | saveProject r =>
    exact ⟨rfl, fun _ hp => (ProjectTable.get?_save ..).trans (if_neg hp), fun _ _ => rfl, rfl⟩
  | eraseProject p =>
    exact ⟨rfl, fun _ hp => (ProjectTable.get?_erase ..).trans (if_neg hp), fun _ _ => rfl, rfl⟩
  | listVersions | loadProject => exact .refl b

theorem stores_perform (b : Backend) (h : k.project = project) :
    b.Stores project (b.perform k).2 := by
  rcases b.perform_cases k with ⟨e, he⟩ | hok
  · rw [he]
    exact .refl b
  · rw [hok, ← h]
    exact b.stores_applied k

theorem stores_offer (b : Backend) (hv : ∀ w ∈ v, w.projectId = project) :
    b.Stores project (b.offer v).2 := by
  cases v with
  | none => exact .refl b
  | some w =>
    have hstores := b.stores_perform (k := .appendVersion w) (hv w rfl)
    rw [offer]
    split
    · next hp =>
      rw [hp] at hstores
      exact hstores
    · next hp =>
      rw [hp] at hstores
      exact hstores

theorem offer_projects (b : Backend) (v : Option VersionRecord) :
    (b.offer v).2.database.projects = b.database.projects := by
  cases v with
  | none => rfl
  | some w =>
    have hprojects : (b.perform (.appendVersion w)).2.database.projects = b.database.projects := by
      rcases b.perform_cases (.appendVersion w) with ⟨e, he⟩ | hok
      · rw [he]
      · rw [hok]
        rfl
    rw [offer]
    split
    · next hp =>
      rw [hp] at hprojects
      exact hprojects
    · next hp =>
      rw [hp] at hprojects
      exact hprojects

/-- A project that has a row keeps one when it is saved. -/
theorem isSome_get?_perform_save (h : (b.database.projects.get? project).isSome = true) :
    ((b.perform (.saveProject r)).2.database.projects.get? project).isSome = true := by
  rcases b.perform_cases (.saveProject r) with ⟨e, he⟩ | hok
  · rw [he]
    exact h
  · rw [hok]
    show ((b.database.projects.save b.clock.now r).get? project).isSome = true
    rw [ProjectTable.get?_save]
    split
    · rfl
    · exact h

end Backend

namespace Operation

open Routine

variable {s : ProjectSetup} {project : Text} {m m' : Memory} {b b' : Backend} {op : Operation}
  {o : Except ProjectError Answer}

/-- The ways in which an operation can end. -/
inductive Ending (s : ProjectSetup) (project : Text) (m : Memory) (b : Backend) :
    Operation → Except ProjectError Answer → Memory → Backend → Prop
  /-- A page of history changes nothing. -/
  | kept {limit : Option PageLength} {o : Except ProjectError Answer} :
      Ending s project m b (.history limit) o m b
  /-- The summary was found in the cache. -/
  | known {known : Summary} {b' : Backend} (hknown : b.summaryOf? project = some (.summary known))
      (hb : b.Fades b') : Ending s project m b .summary (.ok (.summary known)) m b'
  /-- The actor has asked for its record in vain and gives up. -/
  | unheard {op : Operation} {e : ProjectError} {b' : Backend} (hm : m.loaded = false)
      (hvain : b.reaches .loadProject = true → project.isUtf8 = false) (hb : b.Fades b') :
      Ending s project m b op (.error e) { m with loaded := true } b'
  /-- There is a record, and no need to change it. -/
  | answered {op : Operation} {a : Answer}
      (hr : (m.asked s project b).record.isSome = true) :
      Ending s project m b op (.ok a) (m.asked s project b) b
  /-- The operation was refused, behind a version at most. -/
  | refused {op : Operation} {e : ProjectError} {b' : Backend} (hb : b.Stores project b')
      (hprojects : b'.database.projects = b.database.projects) :
      Ending s project m b op (.error e) (m.asked s project b) b'
  /-- A record was committed. It is remembered, and what else came of it may have failed. -/
  | committed {op : Operation} {v : Option VersionRecord} {r : ProjectRecord} {kind : NameKind}
      {report : Bool → Answer} {o : Except ProjectError Answer} {b₁ b' : Backend}
      (hcommits : Commits s project b.clock.now (m.asked s project b) op v r kind report)
      (hb : b.Stores project b₁)
      (hrow : (b.database.projects.get? project).isSome = true →
        (b₁.database.projects.get? project).isSome = true)
      (hb' : b' = b₁.withCache b'.cache)
      (hroomy : b.Roomy → (∃ recorded, o = .ok (report recorded)) ∧
          b' = b₁.refreshed project r.files ∨ (∃ e, o = .error e) ∧ b' = b₁) :
      Ending s project m b op o
        { m.asked s project b with record := some r, nameKind := kind } b'
  /-- There is nothing to summarise. -/
  | missing {e : ProjectError} {b' : Backend} (hb : b.Fades b') :
      Ending s project m b .summary (.error e) (m.asked s project b) b'
  /-- The files of the record were summarised. -/
  | summarised {r : ProjectRecord} {o : Except ProjectError Answer} {b' : Backend}
      (hr : (m.asked s project b).record = some r) (hb : b' = b.withCache b'.cache)
      (hroomy : b.Roomy → o = .ok (.summary r.files.summary) ∧
        b' = (b.lookedUp project).2.refreshed project r.files) :
      Ending s project m b .summary o (m.asked s project b) b'
  /-- The deletion was broken off. -/
  | undeleted {e : ProjectError} {b' : Backend} (hb : b.Stores project b') :
      Ending s project m b .delete (.error e) (m.asked s project b) b'
  | deleted {existed : Bool} {b₁ : Backend} (hb : b.Stores project b₁) :
      Ending s project m b .delete (.ok (.deleted existed)) ((m.asked s project b).holding none)
        (b₁.invalidated project)

section Parts

theorem run_askOr (c : StoreCall) (whenOut : c.Reply) (m : Memory) (b : Backend) :
    ∃ o, (askOr c whenOut).run m b = (o, m, (b.perform c).2) := by
  rw [askOr, run]
  rcases b.perform c with ⟨e | reply, b'⟩
  · dsimp only
    split
    · exact ⟨_, rfl⟩
    · exact ⟨_, rfl⟩
  · exact ⟨_, rfl⟩

theorem run_refresh_ends (project : Text) (files : FileSet) (m : Memory) (b : Backend) :
    ∃ o b', (refresh project files).run m b = (o, m, b') ∧ b' = b.withCache b'.cache ∧
      (b.Roomy → o = .ok files.summary ∧ b' = b.refreshed project files) := by
  by_cases hroomy : b.Roomy
  · exact ⟨_, _, run_refresh project files hroomy, rfl, fun _ => ⟨rfl, rfl⟩⟩
  · rcases run_refresh_cases (m := m) (b := b) project files with ⟨c, h⟩ | ⟨-, c, h⟩
    · exact ⟨_, _, h, rfl, fun hr => absurd hr hroomy⟩
    · exact ⟨_, _, h, rfl, fun hr => absurd hr hroomy⟩

theorem run_discard_refresh_ends (project : Text) (files : FileSet) (m : Memory) (b : Backend) :
    ∃ o b', (discard (refresh project files)).run m b = (o, m, b') ∧ b' = b.withCache b'.cache ∧
      (b.Roomy → o = .ok () ∧ b' = b.refreshed project files) := by
  obtain ⟨o, b', hrun, honly, hroomy⟩ := run_refresh_ends project files m b
  cases o with
  | ok known => exact ⟨_, b', run_discard hrun, honly, fun h => ⟨rfl, (hroomy h).2⟩⟩
  | error e =>
    refine ⟨_, b', run_discard_error hrun, honly, fun h => ?_⟩
    cases (hroomy h).1

theorem run_persist_ends {r : ProjectRecord} (hr : r.projectId = project) (s : ProjectSetup)
    (m : Memory) (b : Backend) :
    ∃ o b₁, (persist s r).run m b = (o, m, b₁) ∧ b.Stores project b₁ ∧
      ((b.database.projects.get? project).isSome = true →
        (b₁.database.projects.get? project).isSome = true) := by
  rw [persist]
  cases s.keepsProjects with
  | false => exact ⟨_, b, rfl, .refl b, id⟩
  | true =>
    obtain ⟨o, ho⟩ := run_askOr (.saveProject r) () m b
    exact ⟨o, _, ho, b.stores_perform hr, Backend.isSome_get?_perform_save⟩

/-- A record that is accepted is remembered. It may have been saved, and the cache gets its files
unless the store has failed. -/
theorem run_accept_ends {r : ProjectRecord} (hr : r.projectId = project) (s : ProjectSetup)
    (kind : NameKind) (m : Memory) (b : Backend) :
    ∃ o b₁ b', (accept s project r kind).run m b =
        (o, { m with record := some r, nameKind := kind }, b') ∧
      b.Stores project b₁ ∧
      ((b.database.projects.get? project).isSome = true →
        (b₁.database.projects.get? project).isSome = true) ∧
      b' = b₁.withCache b'.cache ∧
      (b.Roomy → o = .ok () ∧ b' = b₁.refreshed project r.files ∨
        (∃ e, o = .error e) ∧ b' = b₁) := by
  rw [accept, run_memory_bind, run_setMemory_bind]
  generalize { m with record := some r, nameKind := kind } = m'
  by_cases hkind : kind = .compound
  · rw [if_neg (not_not.mpr hkind)]
    obtain ⟨o, b', hrun, honly, hroomy⟩ := run_discard_refresh_ends project r.files m' b
    exact ⟨o, b, b', hrun, .refl b, id, honly, fun h => .inl (hroomy h)⟩
  · rw [if_pos hkind]
    obtain ⟨o, b₁, hrun, hb₁, hrow⟩ := run_persist_ends hr s m' b
    cases o with
    | error e =>
      exact ⟨_, b₁, b₁, run_bind_error _ hrun, hb₁, hrow, rfl, fun _ => .inr ⟨⟨e, rfl⟩, rfl⟩⟩
    | ok u =>
      obtain ⟨o, b', hrun', honly, hroomy⟩ := run_discard_refresh_ends project r.files m' b₁
      exact ⟨o, b₁, b', (run_bind_ok _ hrun).trans hrun', hb₁, hrow, honly,
        fun h => .inl (hroomy (hb₁.roomy.mpr h))⟩

theorem run_purge_ends (s : ProjectSetup) (project : Text) (m : Memory) (b : Backend) :
    ∃ o b₁, (Ledger.purge s project).run m b = (o, m, b₁) ∧ b.Stores project b₁ := by
  rw [Ledger.purge]
  cases s.keepsVersions with
  | false => exact ⟨_, b, rfl, .refl b⟩
  | true =>
    obtain ⟨o, ho⟩ := run_askOr (.eraseVersions project) (0 : Nat) m b
    exact ⟨o, _, ho, b.stores_perform (k := .eraseVersions project) rfl⟩

theorem run_page_ends (s : ProjectSetup) (project : Text) (limit : Option PageLength) (m : Memory)
    (b : Backend) : ∃ o, (Ledger.page s project limit).run m b = (o, m, b) := by
  have hcall : (b.perform (.listVersions project (s.limits.effective limit))).2 = b := by
    rcases b.perform_cases (.listVersions project (s.limits.effective limit)) with ⟨e, he⟩ | hok
    · rw [he]
    · rw [hok]
      rfl
  rw [Ledger.page]
  cases s.keepsVersions with
  | false => exact ⟨_, rfl⟩
  | true =>
    simp only [Bool.not_true, Bool.false_eq_true, if_false, run_ask_bind, hcall]
    split
    · split <;> exact ⟨_, rfl⟩
    · split <;> exact ⟨_, rfl⟩

end Parts

section Courses

variable {now : Timestamp} {v : Option VersionRecord} {a : Answer} {e : ProjectError}

theorem ofRecord_eq_answer {f : ProjectRecord → Course} (h : ofRecord project m f = .answer a) :
    m.record.isSome = true := by
  rw [ofRecord] at h
  split at h
  · cases h
  · next hr =>
    rw [hr]
    rfl

theorem record_of_answer (h : op.course? s project now m = some (.answer a)) :
    m.record.isSome = true := by
  have hplan {plan : Except ProjectError (SyncResult × Option VersionRecord)}
      {made : SyncResult → Checked (ProjectRecord × NameKind)}
      {answer : ProjectRecord → SyncResult → Answer} :
      Course.ofPlan plan made answer ≠ .answer a := by
    intro h
    unfold Course.ofPlan at h
    split at h
    · cases h
    · split at h <;> cases h
  cases op with
  | create owner name template files =>
    have h := Option.some.inj h
    rw [createCourse] at h
    split at h
    · cases h
    · exact absurd h hplan
  | sync => exact absurd (Option.some.inj h) hplan
  | write | content | listFiles | snapshot | status | render =>
    exact ofRecord_eq_answer (Option.some.inj h)
  | summary | history | delete => cases h

theorem version_of_plan {actor message : Given} {old : Option FileSet} {new : FileSet}
    {d : SyncResult} (h : Ledger.plan s project actor old new message now = .ok (d, v)) :
    ∀ w ∈ v, w.projectId = project := by
  intro w hw
  obtain ⟨-, _, _, -, -, -, rfl⟩ :=
    VersionRecord.ofResult_eq_ok.mp ((Ledger.plan_eq_ok h).2.2 w hw)
  rfl

theorem Declines.version (h : Declines s project now m op v) : ∀ w ∈ v, w.projectId = project := by
  cases h with
  | early => simp
  | create _ hplan | found hplan => exact version_of_plan hplan

theorem Commits.version {r : ProjectRecord} {kind : NameKind} {report : Bool → Answer}
    (h : Commits s project now m op v r kind report) : ∀ w ∈ v, w.projectId = project := by
  cases h with
  | create _ _ hplan | found _ hplan | replace _ hplan => exact version_of_plan hplan
  | edit => simp

end Courses

theorem ending_of_course (hcheck : op.check = .ok ()) (hm : m.Intact project) (hb : b.Intact)
    {x : Course} (hload : (ensureLoaded s project).run m b = (.ok (), m.asked s project b, b))
    (hx : op.course? s project b.clock.now (m.asked s project b) = some x) :
    Ending s project m b op ((op.routine s project).run m b).1
      ((op.routine s project).run m b).2.1 ((op.routine s project).run m b).2.2 := by
  rw [run_course hload hx]
  cases x with
  | answer a => exact .answered (record_of_answer hx)
  | refuse v e =>
    have hstores := b.stores_offer (declines_of_course? hx).version
    have hprojects := b.offer_projects v
    rw [Course.run_refuse]
    split
    · exact .refused hstores hprojects
    · exact .refused hstores hprojects
  | commit v r kind report =>
    have hcommits := commits_of_course? hx
    have hstores := b.stores_offer hcommits.version
    have hprojects := b.offer_projects v
    have hr := (hcommits.succeeds hcheck (hm.asked hb)).intact.project
    rw [Course.run_commit]
    split
    · next recorded _ =>
      obtain ⟨o, b₁, b', hrun, hb₁, hrow, honly, hroomy⟩ :=
        run_accept_ends hr s kind (m.asked s project b) (b.offer v).2
      have hroomy (h : b.Roomy) := hroomy (hstores.roomy.mpr h)
      rw [hprojects] at hrow
      cases o with
      | ok u =>
        rw [run_bind_ok _ hrun, run_pure]
        refine .committed hcommits (hstores.trans hb₁) hrow honly fun h => ?_
        rcases hroomy h with ⟨-, hb'⟩ | ⟨⟨e, he⟩, -⟩
        · exact .inl ⟨⟨recorded, rfl⟩, hb'⟩
        · cases he
      | error e =>
        rw [run_bind_error _ hrun]
        refine .committed hcommits (hstores.trans hb₁) hrow honly fun h => ?_
        rcases hroomy h with ⟨he, -⟩ | ⟨-, hb'⟩
        · cases he
        · exact .inr ⟨⟨e, rfl⟩, hb'⟩
    · exact .refused hstores hprojects

theorem ending_of_summary (s : ProjectSetup) (project : Text) (m : Memory) (b : Backend) :
    Ending s project m b .summary ((summary.routine s project).run m b).1
      ((summary.routine s project).run m b).2.1 ((summary.routine s project).run m b).2.2 := by
  have hfades := b.fades_lookedUp project
  have hreaches : (b.lookedUp project).2.reaches .loadProject = b.reaches .loadProject := by
    rw [hfades.only]
    rfl
  have hasked : m.asked s project (b.lookedUp project).2 = m.asked s project b := by
    rw [hfades.only]
    rfl
  rw [routine, run_summarize_lookedUp]
  cases hknown : (b.lookedUp project).1 with
  | some known => exact .known (Backend.summaryOf?_of_found hknown) hfades
  | none =>
    dsimp only
    rw [freshSummary]
    rcases run_ensureLoaded_cases s project m (b.lookedUp project).2 with
      hload | ⟨hm, hvain, e, hload⟩
    · have hcurrent := run_current_of_load hload
      rw [hasked] at hcurrent
      cases hr : (m.asked s project b).record with
      | none =>
        rw [hr] at hcurrent
        rw [run_bind_error _ hcurrent]
        exact .missing hfades
      | some r =>
        obtain ⟨o, b', hrun, honly, hroomy⟩ :=
          run_refresh_ends project r.files (m.asked s project b) (b.lookedUp project).2
        rw [hfades.only] at honly
        rw [hr] at hcurrent
        rw [run_bind_ok _ hcurrent]
        cases o with
        | ok known =>
          rw [run_bind_ok _ hrun, run_pure]
          refine .summarised hr honly fun h => ?_
          obtain ⟨hk, hb'⟩ := hroomy (hfades.roomy h)
          exact ⟨congrArg (fun o => o.map Answer.summary) hk, hb'⟩
        | error e =>
          rw [run_bind_error _ hrun]
          refine .summarised hr honly fun h => ?_
          cases (hroomy (hfades.roomy h)).1
    · rw [current, run_bind_error _ (run_bind_error _ hload)]
      exact .unheard hm (hreaches ▸ hvain) hfades

theorem ending_of_delete (s : ProjectSetup) (project : Text) (m : Memory) (b : Backend) :
    Ending s project m b .delete ((delete.routine s project).run m b).1
      ((delete.routine s project).run m b).2.1 ((delete.routine s project).run m b).2.2 := by
  have hrest (stored known : Bool) {b₁ : Backend} (hb₁ : b.Stores project b₁) :
      ∃ o m' b', (discard (Ledger.purge s project) >>= fun _ => invalidate project >>= fun _ =>
          memory >>= fun m => setMemory { m with record := none, nameKind := .text } >>= fun _ =>
          pure (Answer.deleted (stored || known))).run (m.asked s project b) b₁ = (o, m', b') ∧
        Ending s project m b .delete o m' b' := by
    obtain ⟨o, b₂, hpurge, hb₂⟩ := run_purge_ends s project (m.asked s project b) b₁
    cases o with
    | ok n =>
      rw [run_bind_ok _ (run_discard hpurge), run_bind_ok _ (run_invalidate project),
        run_memory_bind, run_setMemory_bind]
      exact ⟨_, _, _, rfl, .deleted (hb₁.trans hb₂)⟩
    | error e => exact ⟨_, _, _, run_bind_error _ (run_discard_error hpurge),
        .undeleted (hb₁.trans hb₂)⟩
  have hends {o : Except ProjectError Answer} {m' : Memory} {b' : Backend}
      (hrun : (remove s project).run m b = (o, m', b')) (h : Ending s project m b .delete o m' b') :
      Ending s project m b .delete ((remove s project).run m b).1 ((remove s project).run m b).2.1
        ((remove s project).run m b).2.2 := by
    rw [hrun]
    exact h
  rw [routine]
  rcases run_ensureLoaded_cases s project m b with hload | ⟨hm, hvain, e, hload⟩
  · have hrun : (remove s project).run m b = _ := run_bind_ok _ hload
    cases hs : s.keepsProjects with
    | false =>
      obtain ⟨o, m', b', hrun', h⟩ := hrest false (m.asked s project b).record.isSome (.refl b)
      rw [run_memory_bind, hs] at hrun
      exact hends (hrun.trans hrun') h
    | true =>
      obtain ⟨o, ho⟩ := run_askOr (.eraseProject project) false (m.asked s project b) b
      have hb₁ := b.stores_perform (k := .eraseProject project) rfl
      rw [run_memory_bind, hs] at hrun
      cases o with
      | ok stored =>
        obtain ⟨o, m', b', hrun', h⟩ := hrest stored (m.asked s project b).record.isSome hb₁
        exact hends (hrun.trans ((run_bind_ok _ ho).trans hrun')) h
      | error e => exact hends (hrun.trans (run_bind_error _ ho)) (.undeleted hb₁)
  · exact hends (run_bind_error _ hload) (.unheard hm hvain (.refl b))

/-- Every run of an operation ends in one of the ways there are. -/
theorem ending (hcheck : op.check = .ok ()) (hm : m.Intact project) (hb : b.Intact) :
    Ending s project m b op ((op.routine s project).run m b).1
      ((op.routine s project).run m b).2.1 ((op.routine s project).run m b).2.2 := by
  cases hx : op.course? s project b.clock.now (m.asked s project b) with
  | some x =>
    rcases run_ensureLoaded_cases s project m b with hload | ⟨hl, hvain, e, hload⟩
    · exact ending_of_course hcheck hm hb hload hx
    · rw [run_of_load_error hload (asksFirst_of_course? hx)]
      exact .unheard hl hvain (.refl b)
  | none =>
    rcases course?_eq_none hx with rfl | rfl | ⟨limit, rfl⟩
    · exact ending_of_summary s project m b
    · exact ending_of_delete s project m b
    · obtain ⟨o, hpage⟩ := run_page_ends s project limit m b
      cases o with
      | ok page =>
        rw [routine, run_bind_ok _ hpage]
        exact .kept
      | error e =>
        rw [routine, run_bind_error _ hpage]
        exact .kept

end Operation

/-- From `a` to `b`, nothing of other projects was changed, but that their summaries may have
dropped out of the cache. -/
structure Backend.Confines (project : Text) (a b : Backend) : Prop extends a.Frames project b where
  versions : ∀ other, other ≠ project →
    b.database.versions.newestFirst other = a.database.versions.newestFirst other
  summaries : ∀ other, other ≠ project → ∀ v, b.summaryOf? other = some v →
    a.summaryOf? other = some v
  roomy : b.Roomy

namespace Backend

variable {project : Text} {a b c : Backend}

theorem Stores.frames (h : a.Stores project b) : a.Frames project b where
  others := h.rows
  tables := h.tables
  faults := by rw [h.only]
  clock := h.clock

theorem Stores.confines (h : a.Stores project b) (ha : a.Roomy) : a.Confines project b where
  toFrames := h.frames
  versions := h.versions
  summaries _ _ _ hv := by
    rw [summaryOf?, h.cache] at hv
    exact hv
  roomy := h.roomy.mpr ha

theorem Fades.frames (h : a.Fades b) : a.Frames project b := by
  rw [h.only]
  exact a.frames_withCache _

theorem Fades.confines (h : a.Fades b) (ha : a.Roomy) : a.Confines project b where
  toFrames := h.frames
  versions _ _ := by rw [h.only]; rfl
  summaries _ _ _ hv := h.summaries _ _ hv
  roomy := h.roomy ha

theorem Confines.trans (h : a.Confines project b) (h' : b.Confines project c) :
    a.Confines project c where
  toFrames := h.toFrames.trans h'.toFrames
  versions p hp := (h'.versions p hp).trans (h.versions p hp)
  summaries p hp v hv := h.summaries p hp v (h'.summaries p hp v hv)
  roomy := h'.roomy

theorem confines_refreshed (hb : b.Roomy) (project : Text) (files : FileSet) :
    b.Confines project (b.refreshed project files) where
  toFrames := b.frames_refreshed project files
  versions _ _ := rfl
  summaries p hp v hv := by
    have hv := summaryOf?_of_refreshed hv
    rw [if_neg hp] at hv
    exact hv
  roomy := hb.refreshed project files

theorem confines_invalidated (hb : b.Roomy) (project : Text) :
    b.Confines project (b.invalidated project) where
  toFrames := b.frames_withCache _
  versions _ _ := rfl
  summaries p hp v hv := by
    rw [summaryOf?_invalidated, if_neg hp] at hv
    exact hv
  roomy := hb.invalidated project

end Backend

namespace Operation.Ending

variable {s : ProjectSetup} {project : Text} {m m' : Memory} {b b' : Backend} {op : Operation}
  {o : Except ProjectError Answer}

theorem frames (h : Ending s project m b op o m' b') : b.Frames project b' := by
  cases h with
  | kept | answered => exact .refl b
  | known _ hb | unheard _ _ hb | missing hb => exact hb.frames
  | refused hb | undeleted hb => exact hb.frames
  | committed _ hb _ hb' =>
    rw [hb']
    exact hb.frames.trans (Backend.frames_withCache _ _)
  | summarised _ hb =>
    rw [hb]
    exact b.frames_withCache _
  | deleted hb => exact hb.frames.trans (Backend.frames_withCache _ _)

theorem confines (h : Ending s project m b op o m' b') (hroomy : b.Roomy) :
    b.Confines project b' := by
  cases h with
  | kept | answered => exact (Backend.Stores.refl b).confines hroomy
  | known _ hb | unheard _ _ hb | missing hb => exact hb.confines hroomy
  | refused hb | undeleted hb => exact hb.confines hroomy
  | committed _ hb _ _ hcache =>
    have hconfines := hb.confines hroomy
    rcases hcache hroomy with ⟨-, rfl⟩ | ⟨-, rfl⟩
    · exact hconfines.trans (Backend.confines_refreshed hconfines.roomy _ _)
    · exact hconfines
  | summarised _ _ hcache =>
    have hconfines : b.Confines project (b.lookedUp project).2 :=
      (b.fades_lookedUp project).confines hroomy
    obtain ⟨-, rfl⟩ := hcache hroomy
    exact hconfines.trans (Backend.confines_refreshed hconfines.roomy _ _)
  | deleted hb =>
    have hconfines := hb.confines hroomy
    exact hconfines.trans (Backend.confines_invalidated hconfines.roomy project)

end Operation.Ending

end SitePreview
