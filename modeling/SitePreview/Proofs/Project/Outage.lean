import SitePreview.Proofs.Project.Restart

/-! Outages. An actor that was never told of a record answers as if the store never failed, apart
from what says whether a version was recorded, pages of history and whether there was a project to
delete. Two runs are laid side by side: the store of one fails, that of the other does not, and what
the actor remembers, the cache and the clock are the same in both. -/

namespace SitePreview

/-- The shared state with other faults of the store. -/
def Backend.withFaults (b : Backend) (f : Faults) : Backend := { b with faults := f }

namespace Backend

variable {a b : Backend}

theorem Roomy.of_cache (h : a.Roomy) (hcache : b.cache = a.cache) :
    b.Roomy := by
  rw [Backend.Roomy, hcache]
  exact h

theorem offered_saved_cache (b : Backend) (v : Option VersionRecord) (s : ProjectSetup)
    (r : ProjectRecord) : ((b.offered v).saved s r).cache = b.cache := by
  rw [offered_eq_withDatabase, saved]
  split <;> rfl

theorem forgotten_purged_cache (b : Backend) (s : ProjectSetup) (project : Text) :
    ((b.forgotten s project).purged s project).cache = b.cache := by
  rw [purged, forgotten]
  split <;> split <;> rfl

theorem refreshed_cache (hcache : b.cache = a.cache) (hclock : b.clock = a.clock) (project : Text)
    (files : FileSet) : (b.refreshed project files).cache = (a.refreshed project files).cache := by
  simp only [refreshed, cached, invalidated, withCache, hcache, hclock]

theorem lookedUp_fst (hcache : b.cache = a.cache) (hclock : b.clock = a.clock) (project : Text) :
    (b.lookedUp project).1 = (a.lookedUp project).1 := by
  rw [lookedUp, lookedUp, hcache, hclock]
  split <;> rfl

theorem lookedUp_cache (hcache : b.cache = a.cache) (hclock : b.clock = a.clock) (project : Text) :
    (b.lookedUp project).2.cache = (a.lookedUp project).2.cache := by
  rw [lookedUp, lookedUp, hcache, hclock]
  split
  · exact hcache
  · rfl

end Backend

/-- What is shared in two runs of an actor that remembers `m`: cache and clock are the same, and no
record waits in either store that the actor does not know of. -/
structure Twins (project : Text) (m : Memory) (a b : Backend) : Prop where
  cache : b.cache = a.cache
  clock : b.clock = a.clock
  roomy : a.Roomy
  bearable : a.faults.Bearable
  bearable' : b.faults.Bearable
  intact : m.Intact project
  sound : m.Sound
  untold : m.loaded = false → m.record = none ∧ a.database.projects.get? project = none ∧
    b.database.projects.get? project = none

namespace Twins

variable {project : Text} {m : Memory} {a b : Backend} {s : ProjectSetup} {op : Operation}

theorem roomy' (h : Twins project m a b) : b.Roomy := h.roomy.of_cache h.cache

theorem asked_eq (h : Twins project m a b) :
    m.asked s project a = { m with loaded := true } ∧
      m.asked s project b = { m with loaded := true } := by
  cases hm : m.loaded with
  | true =>
    have hself : { m with loaded := true } = m := by rw [← hm]
    have hasked {c : Backend} : m.asked s project c = { m with loaded := true } :=
      (Memory.asked_of_loaded hm).trans hself.symm
    exact ⟨hasked, hasked⟩
  | false =>
    obtain ⟨hr, ha, hb⟩ := h.untold hm
    have hblank {c : Backend} (hc : c.database.projects.get? project = none) :
        m.asked s project c = { m with loaded := true } := by
      rw [Memory.asked, hm, hc, ← hr, if_neg Bool.false_ne_true, ite_self]
    exact ⟨hblank ha, hblank hb⟩

/-- Runs go on side by side where the actor has been told, with one record in both. -/
theorem told {m' : Memory} {a' b' : Backend} (h : Twins project m a b) (ha : a.Frames project a')
    (hb : b.Frames project b') (hroomy : a'.Roomy) (hcache : b'.cache = a'.cache)
    (hloaded : m'.loaded = true) (hintact : m'.Intact project) (hsound : m'.Sound) :
    Twins project m' a' b' where
  cache := hcache
  clock := hb.clock.trans (h.clock.trans ha.clock.symm)
  roomy := hroomy
  bearable := ha.faults ▸ h.bearable
  bearable' := hb.faults ▸ h.bearable'
  intact := hintact
  sound := hsound
  untold hm := by
    rw [hloaded] at hm
    cases hm

theorem lookedUp (h : Twins project m a b) :
    Twins project m (a.lookedUp project).2 (b.lookedUp project).2 := by
  have hcache := Backend.lookedUp_cache h.cache h.clock project
  have hroomy := h.roomy.lookedUp project
  rw [a.lookedUp_eq_withCache, b.lookedUp_eq_withCache] at hcache ⊢
  rw [a.lookedUp_eq_withCache] at hroomy
  exact ⟨hcache, h.clock, hroomy, h.bearable, h.bearable', h.intact, h.sound, h.untold⟩

end Twins

/-- The answer with all masked in which a failure of the store may show. -/
def Outcome.masked (o : Outcome) : Outcome := o.map Answer.masked

/-- A page of history is asked for by a whole number, if by any, as its parameter is declared. -/
def Operation.AsksWhole : Operation → Prop
  | history limit => ∀ n ∈ limit, n.isWhole = true
  | _ => True

namespace Operation

open Routine

variable {s : ProjectSetup} {project : Text} {m : Memory} {a b : Backend} {op : Operation}

/-- The two runs of an operation are answered alike, apart from what is masked, and go on side by
side. -/
def RunsAlike (s : ProjectSetup) (project : Text) (m : Memory) (a b : Backend) (op : Operation) :
    Prop :=
  ∃ o o' m' a' b', (op.routine s project).run m a = (o, m', a') ∧
    (op.routine s project).run m b = (o', m', b') ∧ Outcome.masked o = Outcome.masked o' ∧
    Twins project m' a' b'

theorem runsAlike_course (h : Twins project m a b) (hpu : project.isUtf8 = true) (hop : op.Plain)
    (hcheck : op.check = .ok ()) {x : Course}
    (hx : op.course? s project a.clock.now { m with loaded := true } = some x) :
    RunsAlike s project m a b op := by
  obtain ⟨hasked, hasked'⟩ := h.asked_eq (s := s)
  have hintact : Memory.Intact project { m with loaded := true } := h.intact
  have hsound : Memory.Sound { m with loaded := true } := ⟨h.sound.record, h.sound.nameKind⟩
  have htold := h.told (.refl a) (.refl b) h.roomy h.cache rfl hintact hsound
  have hx' : op.course? s project b.clock.now { m with loaded := true } = some x := by
    rw [h.clock]
    exact hx
  rw [← hasked] at hx
  rw [← hasked'] at hx'
  have hrun := run_plain h.bearable h.roomy hpu hop hcheck (hasked ▸ hsound) hx
  have hrun' := run_plain h.bearable' h.roomy' hpu hop hcheck (hasked' ▸ hsound) hx'
  rw [hasked] at hrun
  rw [hasked'] at hrun'
  -- both runs take the one course there is
  rcases hrun with ⟨answer, rfl, hrun⟩ | ⟨e, rfl, hrun⟩ | ⟨v, r, report, rfl, hcommits, hr, -, hrun⟩
  · obtain ⟨_, ⟨⟩, hrun'⟩ | ⟨_, ⟨⟩, -⟩ | ⟨_, _, _, ⟨⟩, -⟩ := hrun'
    exact ⟨_, _, _, a, b, hrun, hrun', rfl, htold⟩
  · obtain ⟨_, ⟨⟩, -⟩ | ⟨_, ⟨⟩, hrun'⟩ | ⟨_, _, _, ⟨⟩, -⟩ := hrun'
    exact ⟨_, _, _, a, b, hrun, hrun', rfl, htold⟩
  · obtain ⟨_, ⟨⟩, -⟩ | ⟨_, ⟨⟩, -⟩ | ⟨_, _, _, ⟨⟩, -, -, -, hrun'⟩ := hrun'
    have hsucceeds := hcommits.succeeds hcheck hintact
    have hframes (c : Backend) :
        c.Frames project (((c.offered v).saved s r).refreshed project r.files) :=
      ((c.frames_offered v).trans (Backend.frames_saved _ hsucceeds.intact.project)).trans
        (Backend.frames_refreshed _ _ _)
    have hcache (c : Backend) := c.offered_saved_cache v s r
    refine ⟨_, _, _, _, _, hrun, hrun', ?_, h.told (hframes a) (hframes b) ?_ ?_ rfl ?_ ?_⟩
    · exact congrArg Except.ok ((hcommits.masked _).trans (hcommits.masked _).symm)
    · exact (h.roomy.of_cache (hcache a)).refreshed _ _
    · refine Backend.refreshed_cache ((hcache b).trans (h.cache.trans (hcache a).symm)) ?_ _ _
      exact (hframes b).clock.trans (h.clock.trans (hframes a).clock.symm)
    · rintro _ ⟨⟩
      exact hsucceeds.intact
    · exact Memory.sound_holding (by rintro _ ⟨⟩; exact hr)

theorem runsAlike_summary (h : Twins project m a b) (hpu : project.isUtf8 = true) :
    RunsAlike s project m a b .summary := by
  obtain ⟨hasked, hasked'⟩ := h.asked_eq (s := s)
  have hlooked := h.lookedUp
  have hrun := run_summarize (s := s) (m := m) h.bearable h.roomy hpu
  have hrun' := run_summarize (s := s) (m := m) h.bearable' h.roomy' hpu
  rw [Backend.lookedUp_fst h.cache h.clock, hasked'] at hrun'
  rw [hasked] at hrun
  cases hknown : (a.lookedUp project).1 with
  | some known =>
    simp only [hknown] at hrun hrun'
    exact ⟨_, _, m, _, _, hrun, hrun', rfl, hlooked⟩
  | none =>
    simp only [hknown] at hrun hrun'
    cases hr : m.record with
    | none =>
      simp only [hr] at hrun hrun'
      exact ⟨_, _, _, _, _, hrun, hrun', rfl,
        hlooked.told (.refl _) (.refl _) hlooked.roomy hlooked.cache rfl (Memory.intact_of_none rfl)
          ⟨by simp, h.sound.nameKind⟩⟩
    | some r =>
      simp only [hr] at hrun hrun'
      refine ⟨_, _, _, _, _, hrun, hrun', rfl, hlooked.told
        (Backend.frames_refreshed _ project r.files) (Backend.frames_refreshed _ project r.files)
        (hlooked.roomy.refreshed _ _) (Backend.refreshed_cache hlooked.cache hlooked.clock _ _) rfl
        (hr ▸ h.intact) ⟨hr ▸ h.sound.record, h.sound.nameKind⟩⟩

theorem runsAlike_delete (h : Twins project m a b) (hpu : project.isUtf8 = true) :
    RunsAlike s project m a b .delete := by
  obtain ⟨hasked, hasked'⟩ := h.asked_eq (s := s)
  obtain ⟨existed, hrun⟩ := run_remove (s := s) (m := m) h.bearable hpu
  obtain ⟨existed', hrun'⟩ := run_remove (s := s) (m := m) h.bearable' hpu
  rw [hasked] at hrun
  rw [hasked'] at hrun'
  have hframes (c : Backend) :
      c.Frames project (((c.forgotten s project).purged s project).invalidated project) :=
    (c.frames_forgotten.trans (Backend.frames_purged _)).trans (Backend.frames_withCache _ _)
  have hcache (c : Backend) := c.forgotten_purged_cache s project
  refine ⟨_, _, _, _, _, hrun, hrun', rfl, h.told (hframes a) (hframes b) ?_ ?_ rfl
    (Memory.intact_of_none rfl) ?_⟩
  · exact (h.roomy.of_cache (hcache a)).invalidated project
  · rw [Backend.invalidated, Backend.invalidated, hcache, hcache, h.cache]
    rfl
  · exact Memory.sound_holding (by simp)

theorem runsAlike_history (h : Twins project m a b) (hpu : project.isUtf8 = true)
    {limit : Option PageLength} (hwhole : (history limit).AsksWhole) :
    RunsAlike s project m a b (.history limit) := by
  have hcut : limit.all s.limits.canCut = true := by
    cases limit with
    | none => rfl
    | some n => simp [HistoryLimits.canCut, hwhole n rfl]
  obtain ⟨o, ho, hrun⟩ := run_page s limit h.bearable hpu
  obtain ⟨o', ho', hrun'⟩ := run_page s limit h.bearable' hpu
  obtain ⟨page, rfl⟩ := ho hcut
  obtain ⟨page', rfl⟩ := ho' hcut
  exact ⟨_, _, m, a, b, run_bind_ok _ (hrun m), run_bind_ok _ (hrun' m), rfl, h⟩

theorem runsAlike (h : Twins project m a b) (hpu : project.isUtf8 = true) (hop : op.Plain)
    (hcheck : op.check = .ok ()) (hwhole : op.AsksWhole) : RunsAlike s project m a b op := by
  cases hx : op.course? s project a.clock.now { m with loaded := true } with
  | some x => exact runsAlike_course h hpu hop hcheck hx
  | none =>
    rcases course?_eq_none hx with rfl | rfl | ⟨limit, rfl⟩
    · exact runsAlike_summary h hpu
    · exact runsAlike_delete h hpu
    · exact runsAlike_history h hpu hwhole

end Operation

namespace Registry

/-- A registry whose only actor is one of the project that remembers `m`. -/
def alone (s : ProjectSetup) (b : Backend) (project : Text) (m : Memory) : Registry where
  setup := s
  backend := b
  actors := [{ project := project, memory := m }]
  known := [(project, 0)]

/-- The step with no fault of the store. -/
def Step.faultless : Step → Step
  | setFaults _ => setFaults Faults.none
  | x => x

/-- An operation on the project whose texts can be written, a change of faults that callers bear, or
time that passes. -/
def Step.Serves (project : Text) : Step → Prop
  | perform p op => p = project ∧ op.Plain ∧ op.AsksWhole
  | setFaults f => f.Bearable
  | setClock _ => True
  | _ => False

variable {s : ProjectSetup} {project : Text} {m : Memory} {a b : Backend} {op : Operation}
  {x : Step}

theorem finds_alone (hp : project ≠ []) :
    (alone s b project m).Finds project 0 { project := project, memory := m }
      (alone s b project m) where
  get := by
    have hopen : (alone s b project m).open? project = some 0 := by
      simp [open?, alone]
    rw [get, if_neg hp, hopen]
  actor := rfl
  setup := rfl
  backend := rfl
  actors x hx := .inl hx

theorem perform_alone (hp : project ≠ []) (hcheck : op.check = .ok ()) {o : Outcome} {m' : Memory}
    {b' : Backend} (hrun : (op.routine s project).run m b = (o, m', b')) :
    (alone s b project m).perform project op = (o, alone s b' project m') :=
  (finds_alone hp).perform_eq hcheck hrun

theorem step_start_eq_alone (hp : project ≠ []) :
    ({ setup := s, backend := b } : Registry).step (.start project) = alone s b project {} := by
  have hget : ({ setup := s, backend := b } : Registry).get project =
      .ok (0, alone s b project {}) := by
    rw [get, if_neg hp]
    rfl
  rw [step, hget]

theorem twins_perform (h : Twins project m a b) (hpu : project.isUtf8 = true) (hop : op.Plain)
    (hwhole : op.AsksWhole) :
    ∃ m' a' b', ((alone s a project m).perform project op).2 = alone s a' project m' ∧
      ((alone s b project m).perform project op).2 = alone s b' project m' ∧
      Twins project m' a' b' ∧
      Outcome.masked ((alone s a project m).perform project op).1 =
        Outcome.masked ((alone s b project m).perform project op).1 := by
  by_cases hp : project = []
  · subst hp
    exact ⟨m, a, b, rfl, rfl, h, rfl⟩
  rcases check_eq_ok_or_error op with hcheck | ⟨e, hcheck⟩
  · obtain ⟨o, o', m', a', b', hrun, hrun', hmasked, htwins⟩ :=
      Operation.runsAlike (s := s) h hpu hop hcheck hwhole
    rw [perform_alone hp hcheck hrun, perform_alone hp hcheck hrun']
    exact ⟨m', a', b', rfl, rfl, htwins, hmasked⟩
  · rw [perform_of_bad_check (finds_alone hp) hcheck, perform_of_bad_check (finds_alone hp) hcheck]
    exact ⟨m, a, b, rfl, rfl, h, rfl⟩

/-- In two runs side by side, a step is answered alike apart from what is masked, and the runs go on
side by side. -/
theorem twins_step (h : Twins project m a b) (hpu : project.isUtf8 = true)
    (hx : x.Serves project) :
    ∃ m' a' b', (alone s a project m).step x = alone s a' project m' ∧
      (alone s b project m).step x.faultless = alone s b' project m' ∧
      Twins project m' a' b' ∧
      ((alone s a project m).outcomes (.step x)).map Outcome.masked =
        ((alone s b project m).outcomes (.step x.faultless)).map Outcome.masked := by
  cases x with
  | perform p op =>
    obtain ⟨rfl, hop, hwhole⟩ := hx
    obtain ⟨m', a', b', ha, hb, htwins, hmasked⟩ := twins_perform (s := s) h hpu hop hwhole
    exact ⟨m', a', b', ha, hb, htwins, congrArg (fun o => [o]) hmasked⟩
  | setFaults f =>
    exact ⟨m, a.withFaults f, b.withFaults Faults.none, rfl, rfl,
      ⟨h.cache, h.clock, h.roomy, hx, Faults.bearable_none, h.intact, h.sound, h.untold⟩, rfl⟩
  | setClock t =>
    exact ⟨m, { a with clock := t }, { b with clock := t }, rfl, rfl,
      ⟨h.cache, rfl, h.roomy, h.bearable, h.bearable', h.intact, h.sound, h.untold⟩, rfl⟩
  | start | release | closeActor | closeAll => exact hx.elim

theorem twins_answers (h : Twins project m a b) (hpu : project.isUtf8 = true) {steps : List Step}
    (hsteps : ∀ x ∈ steps, x.Serves project) :
    ((alone s a project m).answers steps).map Outcome.masked =
      ((alone s b project m).answers (steps.map Step.faultless)).map Outcome.masked := by
  induction steps generalizing m a b with
  | nil => rfl
  | cons x steps ih =>
    rw [List.forall_mem_cons] at hsteps
    obtain ⟨m', a', b', ha, hb, htwins, hmasked⟩ := twins_step (s := s) h hpu hsteps.1
    rw [List.map_cons, answers, answers, List.map_append, List.map_append, hmasked, ha, hb,
      ih htwins hsteps.2]

/-- The actor of a project without a row answers every session as if the store never failed, apart
from whether versions were recorded, pages of history and whether there was a project to delete. -/
theorem answers_masked_of_outages (hp : project ≠ []) (hpu : project.isUtf8 = true)
    (hroomy : b.Roomy) (hf : b.faults.Bearable)
    (hrow : b.database.projects.get? project = none) {steps : List Step}
    (hsteps : ∀ x ∈ steps, x.Serves project) :
    (({ setup := s, backend := b } : Registry).answers (.start project :: steps)).map
        Outcome.masked =
      (({ setup := s, backend := b.withFaults Faults.none } : Registry).answers
        (.start project :: steps.map Step.faultless)).map Outcome.masked := by
  have htwins : Twins project {} b (b.withFaults Faults.none) :=
    ⟨rfl, rfl, hroomy, hf, Faults.bearable_none, Memory.intact_of_none rfl, Memory.sound_empty,
      fun _ => ⟨rfl, hrow, hrow⟩⟩
  rw [answers, answers, step_start_eq_alone hp, step_start_eq_alone hp]
  exact twins_answers htwins hpu hsteps

/-- A project is created while the store is down, edited and synchronised while it comes and goes,
looked at and deleted. -/
def outageLife : List Step :=
  [.setFaults fun _ => some .unavailable,
    .perform "p" (.create (.text "ada") (.text "demo") .nothing (some (.ofList [("a.js", "1")]))),
    .perform "p" (.write [⟨"b.js", .create, some "2"⟩]),
    .setFaults .none,
    .perform "p" (.sync (.ofList [("b.js", "3")]) (.text "bob") .nothing (.text "show")),
    .setFaults fun _ => some .system,
    .perform "p" .status,
    .perform "p" .summary,
    .perform "p" (.history none),
    .perform "p" .delete,
    .perform "p" .snapshot]

theorem answers_masked_of_outages_outageLife :
    ((opened {} none { now := { seconds := 0 } }).answers (.start "p" :: outageLife)).map
        Outcome.masked =
      ((opened {} none { now := { seconds := 0 } }).answers
        (.start "p" :: outageLife.map Step.faultless)).map Outcome.masked := by
  have hsteps : ∀ x ∈ outageLife, x.Serves "p" := by
    have hada : Given.Written (.text "ada") := ⟨"ada", by decide, rfl⟩
    have hbob : Given.Written (.text "bob") := ⟨"bob", by decide, rfl⟩
    have hdemo : Given.Written (.text "demo") := ⟨"demo", by decide, rfl⟩
    have hshow : Given.WrittenOrNothing (.text "show") := ⟨some "show", by decide, rfl⟩
    have hnothing : Given.WrittenOrNothing .nothing := ⟨none, by decide, rfl⟩
    have hdown : Faults.Bearable fun _ => some .unavailable := Faults.bearable_const (by decide)
    have hbroken : Faults.Bearable fun _ => some .system := Faults.bearable_const (by decide)
    simp only [outageLife, List.forall_mem_cons, List.not_mem_nil, false_imp_iff, implies_true,
      and_true, Step.Serves, Operation.Plain, Operation.AsksWhole, hada, hbob, hdemo, hshow,
      hnothing, hdown, hbroken, Faults.bearable_none, true_and]
    decide
  have hroomy : Backend.Roomy { clock := { now := { seconds := 0 } } } := by simp [Backend.Roomy]
  exact answers_masked_of_outages (by decide) (by decide) hroomy Faults.bearable_none rfl hsteps

end Registry

end SitePreview
