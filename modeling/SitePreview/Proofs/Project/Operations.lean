import SitePreview.Proofs.Project.Commits

/-! What each operation comes to while the store fails in ways that callers bear and the cache has
room: its answer, what its actor remembers then, and what is shared. -/

namespace SitePreview

namespace Backend

variable {b : Backend} {v : Option VersionRecord}

theorem offer_plain (hf : b.faults.Bearable)
    (hv : ∀ w ∈ v, (StoreCall.appendVersion w).Plain) :
    b.offer v = (.ok (b.takes v), b.offered v) := by
  cases v with
  | none => rfl
  | some v =>
    rw [offer, takes, offered]
    cases hb : b.reaches .appendVersion with
    | false =>
      obtain ⟨e, he, hcall⟩ := perform_of_not_reaches (c := .appendVersion v) hf hb
      simp [hcall, he]
    | true =>
      rw [perform_of_reaches (c := .appendVersion v) hb (hv v rfl)]
      rfl

theorem offered_eq_withDatabase (b : Backend) (v : Option VersionRecord) :
    b.offered v = { b with database := (b.offered v).database } := by
  cases v with
  | none => rfl
  | some v =>
    rw [offered]
    split <;> rfl

/-- What the cache knows of the summary of a project, and the shared state once it was asked. -/
def lookedUp (b : Backend) (project : Text) : Option Summary × Backend :=
  match b.cache with
  | none => (none, b)
  | some c =>
    let found := c.get b.clock.steady ⟨Operation.summaryKind, project⟩
    (match found.1 with
      | some (.summary known) => some known
      | _ => none,
      b.withCache (some found.2))

theorem lookedUp_eq_withCache (b : Backend) (project : Text) :
    (b.lookedUp project).2 = b.withCache (b.lookedUp project).2.cache := by
  rw [lookedUp]
  split <;> rfl

theorem Roomy.lookedUp (h : b.Roomy) (project : Text) : (b.lookedUp project).2.Roomy := by
  rw [Backend.lookedUp]
  split
  · exact h
  · next c hc =>
    rintro _ ⟨⟩
    exact Cache.get_policy c _ _ ▸ h c hc

theorem Sound.lookedUp (h : b.Sound) (project : Text) : (b.lookedUp project).2.Sound := by
  have hroomy := h.roomy.lookedUp project
  rw [lookedUp_eq_withCache] at hroomy ⊢
  exact h.withCache hroomy

/-- The store removes the row of a project now, and there is one. -/
def forgets (b : Backend) (s : ProjectSetup) (project : Text) : Bool :=
  s.keepsProjects && b.reaches .eraseProject && (b.database.projects.get? project).isSome

end Backend

namespace Operation

open Routine

variable {s : ProjectSetup} {project : Text} {m : Memory} {b : Backend} {op : Operation}

/-- A record that is committed with a version is remembered, and what is shared shows which of them
the store took. -/
theorem run_commit {v : Option VersionRecord} {r : ProjectRecord} (report : Bool → Answer)
    (hf : b.faults.Bearable) (hb : b.Roomy) (hv : ∀ w ∈ v, (StoreCall.appendVersion w).Plain)
    (hr : r.Storable) :
    ((Course.commit v r .text report).routine s project).run m b =
      (.ok (report (b.takes v)), m.holding (some r),
        ((b.offered v).saved s r).refreshed project r.files) := by
  have hoffered := b.offered_eq_withDatabase v
  have hf' : (b.offered v).faults.Bearable := by rw [hoffered]; exact hf
  have hb' : (b.offered v).Roomy := by rw [hoffered]; exact hb
  rw [Course.run_commit, Backend.offer_plain hf hv]
  dsimp only
  rw [run_bind_ok _ (run_accept project hf' hb' hr), run_pure]

/-- An operation whose texts can be written, and that takes a course, is answered or refused and
leaves all as it was, or it commits. -/
theorem run_plain {x : Course} (hf : b.faults.Bearable) (hb : b.Roomy) (hpu : project.isUtf8 = true)
    (hop : op.Plain) (hcheck : op.check = .ok ()) (hm : (m.asked s project b).Sound)
    (hx : op.course? s project b.clock.now (m.asked s project b) = some x) :
    (∃ a, x = .answer a ∧ (op.routine s project).run m b = (.ok a, m.asked s project b, b)) ∨
      (∃ e, x = .refuse none e ∧
        (op.routine s project).run m b = (.error e, m.asked s project b, b)) ∨
      ∃ v r report, x = .commit v r .text report ∧
        Commits s project b.clock.now (m.asked s project b) op v r .text report ∧ r.Storable ∧
        (∀ w ∈ v, (StoreCall.appendVersion w).Plain) ∧
        (op.routine s project).run m b =
          (.ok (report (b.takes v)), (m.asked s project b).holding (some r),
            ((b.offered v).saved s r).refreshed project r.files) := by
  rw [run_course (run_ensureLoaded hf hpu) hx]
  cases x with
  | answer a => exact .inl ⟨a, rfl, rfl⟩
  | refuse v e =>
    cases (declines_of_course? hx).eq_none hop.textual
    exact .inr (.inl ⟨e, rfl, rfl⟩)
  | commit v r kind report =>
    have hcommits := commits_of_course? hx
    cases hcommits.kind_eq hop.textual hm.nameKind
    obtain ⟨hr, hv⟩ := hcommits.plain hcheck hop hm
    exact .inr (.inr ⟨v, r, report, rfl, hcommits, hr, hv, run_commit report hf hb hv hr⟩)

theorem run_page (s : ProjectSetup) (limit : Option PageLength) (hf : b.faults.Bearable)
    (hpu : project.isUtf8 = true) :
    ∃ o, (limit.all s.limits.canCut = true → ∃ page, o = .ok page) ∧
      ∀ m, (Ledger.page s project limit).run m b = (o, m, b) := by
  rw [Ledger.page]
  cases hs : s.keepsVersions with
  | false => exact ⟨_, fun _ => ⟨_, rfl⟩, fun m => rfl⟩
  | true =>
    simp only [Bool.not_true, Bool.false_eq_true, if_false, run_ask_bind]
    cases hb : b.reaches .listVersions with
    | false =>
      obtain ⟨e, he, hcall⟩ := Backend.perform_of_not_reaches
        (c := .listVersions project (s.limits.effective limit)) hf hb
      exact ⟨.ok .unavailable, fun _ => ⟨_, rfl⟩, fun m => by simp [hcall, he]⟩
    | true =>
      rw [Backend.perform_of_reaches (c := .listVersions project (s.limits.effective limit)) hb
        (StoreCall.plain_of_texts rfl hpu)]
      dsimp only
      split
      · exact ⟨_, fun _ => ⟨_, rfl⟩, fun m => rfl⟩
      · next hcut => exact ⟨_, fun h => absurd h hcut, fun m => rfl⟩

/-- What is done for a summary that the cache does not know. -/
def freshSummary (s : ProjectSetup) (project : Text) : Routine Answer := do
  return .summary (← refresh project (← current s project).files)

/-- A summary is looked up in the cache first. -/
theorem run_summarize_lookedUp (s : ProjectSetup) (project : Text) (m : Memory) (b : Backend) :
    (summarize s project).run m b =
      match (b.lookedUp project).1 with
      | some known => (.ok (.summary known), m, (b.lookedUp project).2)
      | none => (freshSummary s project).run m (b.lookedUp project).2 := by
  rw [summarize, run_cache_bind, Backend.lookedUp]
  cases b.cache with
  | none => rfl
  | some c =>
    dsimp only
    rw [run_clock_bind, run_setCache_bind, run_bind_ok _ (run_pure _)]
    rcases (c.get b.clock.steady ⟨summaryKind, project⟩).1 with _ | files | known <;> rfl

/-- A summary is the one that the cache knows, or else that of the files of the project. -/
theorem run_summarize (hf : b.faults.Bearable) (hb : b.Roomy) (hpu : project.isUtf8 = true) :
    (summarize s project).run m b =
      match (b.lookedUp project).1, (m.asked s project b).record with
      | some known, _ => (.ok (.summary known), m, (b.lookedUp project).2)
      | none, none =>
        (.error (.notFound project), m.asked s project b, (b.lookedUp project).2)
      | none, some r =>
        (.ok (.summary r.files.summary), m.asked s project b,
          (b.lookedUp project).2.refreshed project r.files) := by
  have hlooked := b.lookedUp_eq_withCache project
  have hf' : (b.lookedUp project).2.faults.Bearable := by rw [hlooked]; exact hf
  have hasked : m.asked s project (b.lookedUp project).2 = m.asked s project b := by
    rw [hlooked]
    rfl
  have hcurrent := run_current (s := s) (m := m) hf' hpu
  rw [hasked] at hcurrent
  rw [run_summarize_lookedUp]
  cases (b.lookedUp project).1 with
  | some known => rfl
  | none =>
    dsimp only
    cases hr : (m.asked s project b).record with
    | none =>
      rw [hr] at hcurrent
      exact run_bind_error _ hcurrent
    | some r =>
      rw [hr] at hcurrent
      rw [freshSummary, run_bind_ok _ hcurrent,
        run_bind_ok _ (run_refresh project r.files (hb.lookedUp project)), run_pure]

theorem run_forget_bind {β : Type} (f : Bool → Routine β) (hf : b.faults.Bearable)
    (hpu : project.isUtf8 = true) :
    (if s.keepsProjects then askOr (.eraseProject project) false >>= f
      else pure false >>= f).run m b = (f (b.forgets s project)).run m (b.forgotten s project) := by
  rw [Backend.forgotten, Backend.forgets]
  cases hs : s.keepsProjects with
  | false => rfl
  | true =>
    cases hb : b.reaches .eraseProject with
    | false =>
      exact run_bind_ok _ (run_askOr_of_not_reaches (c := .eraseProject project) _ hf hb)
    | true =>
      exact run_bind_ok _ (run_askOr_of_reaches (c := .eraseProject project) _ hb
        (StoreCall.plain_of_texts rfl hpu))

theorem run_purge (hf : b.faults.Bearable) (hpu : project.isUtf8 = true) :
    ∃ n, (Ledger.purge s project).run m b = (.ok n, m, b.purged s project) := by
  rw [Ledger.purge, Backend.purged, Backend.purges]
  cases hs : s.keepsVersions with
  | false => exact ⟨0, rfl⟩
  | true =>
    cases hb : b.reaches .eraseVersions with
    | false => exact ⟨_, run_askOr_of_not_reaches (c := .eraseVersions project) _ hf hb⟩
    | true =>
      exact ⟨_, run_askOr_of_reaches (c := .eraseVersions project) _ hb
        (StoreCall.plain_of_texts rfl hpu)⟩

/-- A deletion always succeeds; what of it got through to the store shows in what is shared. -/
theorem run_remove_eq (hf : b.faults.Bearable) (hpu : project.isUtf8 = true) :
    (remove s project).run m b =
      (.ok (.deleted (b.forgets s project || (m.asked s project b).record.isSome)),
        (m.asked s project b).holding none,
        ((b.forgotten s project).purged s project).invalidated project) := by
  have hforgotten : (b.forgotten s project).faults.Bearable := by
    rw [Backend.forgotten]
    split <;> exact hf
  obtain ⟨n, hpurge⟩ := run_purge (s := s) (m := m.asked s project b) hforgotten hpu
  rw [remove, run_bind_ok _ (run_ensureLoaded hf hpu), run_memory_bind]
  refine (run_forget_bind _ hf hpu).trans ?_
  dsimp only
  rw [run_bind_ok _ (run_discard hpurge), run_bind_ok _ (run_invalidate project), run_memory_bind,
    run_setMemory_bind]
  rfl

theorem run_remove (hf : b.faults.Bearable) (hpu : project.isUtf8 = true) :
    ∃ existed, (remove s project).run m b =
      (.ok (.deleted existed), (m.asked s project b).holding none,
        ((b.forgotten s project).purged s project).invalidated project) :=
  ⟨_, run_remove_eq hf hpu⟩

end Operation

end SitePreview
