import SitePreview.Proofs.Project.Frames
import SitePreview.Proofs.Project.Interleaving

/-! Restarts. While the store works, an actor remembers what a new one would be told, so it makes no
difference to any answer when actors are released, closed or started between operations. -/

namespace SitePreview

/-- The store answers every call. -/
structure Backend.Works (b : Backend) : Prop where
  tables : b.database.hasTables = true
  faults : b.faults = Faults.none

namespace Backend

variable {b : Backend}

theorem Works.reaches (h : b.Works) (m : StoreMethod) : b.reaches m = true := by
  rw [Backend.reaches, h.tables, h.faults]
  rfl

theorem Works.bearable (h : b.Works) : b.faults.Bearable := by
  rw [h.faults]
  exact Faults.bearable_none

theorem Frames.works {project : Text} {a : Backend} (h : a.Frames project b) (ha : a.Works) :
    b.Works := ⟨h.tables.trans ha.tables, h.faults.trans ha.faults⟩

/-- What a new actor remembers once it has asked a store that works. -/
def recalled (b : Backend) (project : Text) : Memory :=
  { record := b.database.projects.get? project, loaded := true }

theorem Works.asked_empty (h : b.Works) {s : ProjectSetup} (hs : s.keepsProjects = true)
    (project : Text) : ({} : Memory).asked s project b = b.recalled project := by
  rw [Memory.asked, hs, h.reaches]
  rfl

theorem Frames.asked_eq_recalled {m : Memory} {s : ProjectSetup} {project : Text} {a : Backend}
    (h : a.Frames project b)
    (hrow : b.database.projects.get? project = a.database.projects.get? project)
    (hm : m.asked s project a = a.recalled project) :
    m.asked s project b = b.recalled project := by
  rw [Memory.asked_congr (h.reaches _) hrow, hm, recalled, recalled, hrow]

theorem holding_recalled {row : Option ProjectRecord} {project : Text} (a : Backend)
    (h : b.database.projects.get? project = row) :
    (a.recalled project).holding row = b.recalled project := by
  subst h
  rfl

theorem offered_projects (b : Backend) (v : Option VersionRecord) :
    (b.offered v).database.projects = b.database.projects := by
  cases v with
  | none => rfl
  | some v =>
    rw [offered]
    split <;> rfl

theorem purged_projects (b : Backend) (s : ProjectSetup) (project : Text) :
    (b.purged s project).database.projects = b.database.projects := by
  rw [purged]
  split <;> rfl

theorem Works.get?_saved (h : b.Works) {s : ProjectSetup} (hs : s.keepsProjects = true)
    {project : Text} {r : ProjectRecord}
    (hr : r.Succeeds project b.clock.now (b.database.projects.get? project))
    (hnow : b.clock.now.asUtc = b.clock.now) :
    (b.saved s r).database.projects.get? project = some r := by
  rw [saved, hs, h.reaches]
  exact ProjectTable.get?_save_of_succeeds hr hnow

theorem Works.get?_forgotten (h : b.Works) {s : ProjectSetup} (hs : s.keepsProjects = true)
    (project : Text) : (b.forgotten s project).database.projects.get? project = none := by
  rw [forgotten, hs, h.reaches]
  exact (ProjectTable.get?_erase ..).trans (if_pos rfl)

end Backend

namespace Operation

open Routine

variable {s : ProjectSetup} {project : Text} {m m' : Memory} {b : Backend} {op : Operation}

/-- All operations but summaries and pages of history ask for the record first, and go by what they
are told. -/
theorem run_eq_of_asked (hf : b.faults.Bearable) (hpu : project.isUtf8 = true)
    (hop : op.asksFirst = true) (h : m.asked s project b = m'.asked s project b) :
    (op.routine s project).run m b = (op.routine s project).run m' b := by
  have hload := run_ensureLoaded (s := s) (m := m) hf hpu
  have hload' := run_ensureLoaded (s := s) (m := m') hf hpu
  rw [← h] at hload'
  cases hx : op.course? s project b.clock.now (m.asked s project b) with
  | some x => rw [run_course hload hx, run_course hload' hx]
  | none =>
    rcases course?_eq_none hx with rfl | rfl | ⟨limit, rfl⟩
    · cases hop
    · rw [routine, remove, run_bind_ok _ hload, run_bind_ok _ hload']
    · cases hop

/-- The operation has one end for all actors that remember what a new one would be told: they answer
alike, leave the same behind them, and stay such actors. -/
def EndsAlike (s : ProjectSetup) (project : Text) (b : Backend) (op : Operation) : Prop :=
  ∃ o b', b.Frames project b' ∧ ∀ m, m.asked s project b = b.recalled project →
    ∃ m', (op.routine s project).run m b = (o, m', b') ∧
      m'.asked s project b' = b'.recalled project

theorem asked_of_eq_recalled (h : m = b.recalled project) :
    m.asked s project b = b.recalled project := by
  rw [h]
  rfl

/-- Where the record is asked for first, it is enough to see how a new actor ends. -/
theorem EndsAlike.of_new {o : Outcome} {b' : Backend} (hs : s.keepsProjects = true) (hb : b.Works)
    (hpu : project.isUtf8 = true) (hfirst : op.asksFirst = true) (hframes : b.Frames project b')
    (hrun : (op.routine s project).run {} b = (o, m', b'))
    (hm' : m'.asked s project b' = b'.recalled project) : EndsAlike s project b op :=
  ⟨o, b', hframes, fun _ hm => ⟨m', (run_eq_of_asked hb.bearable hpu hfirst
    (hm.trans (hb.asked_empty hs project).symm)).trans hrun, hm'⟩⟩

theorem endsAlike_of_course {x : Course} (hs : s.keepsProjects = true) (hb : b.Works)
    (hroomy : b.Roomy) (hnow : b.clock.now.asUtc = b.clock.now) (hpu : project.isUtf8 = true)
    (hop : op.Plain) (hcheck : op.check = .ok ()) (hintact : (b.recalled project).Intact project)
    (hsound : (b.recalled project).Sound)
    (hx : op.course? s project b.clock.now (b.recalled project) = some x) :
    EndsAlike s project b op := by
  have hempty := hb.asked_empty hs project
  have hfirst := asksFirst_of_course? hx
  rw [← hempty] at hx hsound hintact
  rcases run_plain hb.bearable hroomy hpu hop hcheck hsound hx with
    ⟨a, -, hrun⟩ | ⟨e, -, hrun⟩ | ⟨v, r, report, -, hcommits, -, -, hrun⟩
  · exact .of_new hs hb hpu hfirst (.refl b) hrun (asked_of_eq_recalled hempty)
  · exact .of_new hs hb hpu hfirst (.refl b) hrun (asked_of_eq_recalled hempty)
  · have hsucceeds := hcommits.succeeds hcheck hintact
    have hframes : b.Frames project (b.offered v) := b.frames_offered v
    have hclock : (b.offered v).clock.now = b.clock.now := by rw [hframes.clock]
    have hrow : ((b.offered v).saved s r).database.projects.get? project = some r := by
      refine (hframes.works hb).get?_saved hs ?_ (by rw [hclock]; exact hnow)
      rw [Backend.offered_projects, hclock]
      rw [hempty] at hsucceeds
      exact hsucceeds
    refine .of_new hs hb hpu hfirst ((hframes.trans
      (Backend.frames_saved _ hsucceeds.intact.project)).trans (Backend.frames_refreshed _ _ _))
      hrun (asked_of_eq_recalled ?_)
    rw [hempty]
    exact Backend.holding_recalled b hrow

theorem endsAlike_summary (hb : b.Works) (hroomy : b.Roomy) (hpu : project.isUtf8 = true) :
    EndsAlike s project b .summary := by
  have hframes : b.Frames project (b.lookedUp project).2 := b.frames_lookedUp
  have hrow : (b.lookedUp project).2.database.projects.get? project =
      b.database.projects.get? project := by
    rw [Backend.lookedUp_eq_withCache]
    rfl
  have hrun (m : Memory) (hm : m.asked s project b = b.recalled project) :=
    hm ▸ run_summarize (s := s) (m := m) hb.bearable hroomy hpu
  cases hknown : (b.lookedUp project).1 with
  | some known =>
    simp only [hknown] at hrun
    exact ⟨_, _, hframes, fun m hm => ⟨m, hrun m hm, hframes.asked_eq_recalled hrow hm⟩⟩
  | none =>
    simp only [hknown] at hrun
    have hrecalled : (b.recalled project).asked s project b = b.recalled project :=
      asked_of_eq_recalled rfl
    cases hr : (b.recalled project).record with
    | none =>
      simp only [hr] at hrun
      exact ⟨_, _, hframes, fun m hm =>
        ⟨_, hrun m hm, hframes.asked_eq_recalled hrow hrecalled⟩⟩
    | some r =>
      simp only [hr] at hrun
      have hframes' := hframes.trans (Backend.frames_refreshed _ project r.files)
      exact ⟨_, _, hframes', fun m hm =>
        ⟨_, hrun m hm, hframes'.asked_eq_recalled hrow hrecalled⟩⟩

theorem endsAlike_delete (hs : s.keepsProjects = true) (hb : b.Works)
    (hpu : project.isUtf8 = true) : EndsAlike s project b .delete := by
  obtain ⟨existed, hrun⟩ := run_remove (s := s) (m := {}) hb.bearable hpu
  have hrow : ((b.forgotten s project).purged s project).database.projects.get? project =
      none := by
    rw [Backend.purged_projects]
    exact hb.get?_forgotten hs project
  refine .of_new hs hb hpu rfl ((b.frames_forgotten.trans (Backend.frames_purged _)).trans
    (Backend.frames_withCache _ _)) hrun (asked_of_eq_recalled ?_)
  rw [hb.asked_empty hs project]
  exact Backend.holding_recalled b hrow

/-- A page is read without a look at the record. -/
theorem endsAlike_history (hb : b.Works) (hpu : project.isUtf8 = true)
    (limit : Option PageLength) : EndsAlike s project b (.history limit) := by
  obtain ⟨o, -, ho⟩ := run_page s limit hb.bearable hpu
  cases o with
  | error e => exact ⟨_, b, .refl b, fun m hm => ⟨m, run_bind_error _ (ho m), hm⟩⟩
  | ok page => exact ⟨_, b, .refl b, fun m hm => ⟨m, run_bind_ok _ (ho m), hm⟩⟩

/-- From a store that works and whose clock shows universal time, the end of an operation and what
is shared then are the same for every actor that remembers what a new one would be told, and such an
actor stays one. -/
theorem endsAlike (hs : s.keepsProjects = true) (hb : b.Works) (hroomy : b.Roomy)
    (hnow : b.clock.now.asUtc = b.clock.now) (hpu : project.isUtf8 = true) (hop : op.Plain)
    (hcheck : op.check = .ok ()) (hintact : (b.recalled project).Intact project)
    (hsound : (b.recalled project).Sound) : EndsAlike s project b op := by
  cases hx : op.course? s project b.clock.now (b.recalled project) with
  | some x => exact endsAlike_of_course hs hb hroomy hnow hpu hop hcheck hintact hsound hx
  | none =>
    rcases course?_eq_none hx with rfl | rfl | ⟨limit, rfl⟩
    · exact endsAlike_summary hb hroomy hpu
    · exact endsAlike_delete hs hb hpu
    · exact endsAlike_history hb hpu limit

end Operation

namespace Registry

/-- The step only starts, releases or closes actors. -/
def Step.isHousekeeping : Step → Bool
  | start _ | release _ | closeActor _ | closeAll => true
  | perform .. | setFaults _ | setClock _ => false

/-- All texts of an operation can be written, the store does not fail, and the clock shows universal
time. -/
def Step.Steady : Step → Prop
  | perform project op => project.isUtf8 = true ∧ op.Plain
  | setFaults f => f = Faults.none
  | setClock t => t.now.asUtc = t.now
  | _ => True

/-- What callers are answered in a session. -/
def answers (r : Registry) : List Step → List Outcome
  | [] => []
  | x :: steps => r.outcomes (.step x) ++ (r.step x).answers steps

variable {r : Registry} {project : Text} {op : Operation} {n : Nat} {a : Actor} {x : Step}

/-- The store of the registry works, and every open actor remembers what a new one would be told. -/
structure Synced (r : Registry) : Prop where
  sound : r.Sound
  intact : r.Intact
  keeps : r.setup.keepsProjects = true
  works : r.backend.Works
  utc : r.backend.clock.now.asUtc = r.backend.clock.now
  actors : ∀ a ∈ r.actors, a.closed = false →
    a.memory.asked r.setup a.project r.backend = r.backend.recalled a.project

theorem synced_opened {setup : ProjectSetup} {cache : Option (Cache Cached)} {clock : Clock}
    (hkeeps : setup.keepsProjects = true) (hcache : ∀ c ∈ cache, 1 ≤ c.policy.capacity)
    (hclock : clock.now.asUtc = clock.now) : (opened setup cache clock).Synced where
  sound := sound_opened setup clock hcache
  intact := intact_opened setup cache clock
  keeps := hkeeps
  works := ⟨rfl, rfl⟩
  utc := hclock
  actors _ h := nomatch h

theorem Synced.found {found : Registry} (h : r.Synced) (hf : r.Finds project n a found) :
    a.memory.asked r.setup project r.backend = r.backend.recalled project := by
  obtain ⟨hp, hopen, -⟩ := h.intact.addressed.finds hf
  rcases hf.actors a (List.mem_of_getElem? hf.actor) with ha | rfl
  · exact hp ▸ h.actors a ha hopen
  · exact h.works.asked_empty h.keeps project

theorem Synced.others {found : Registry} (h : r.Synced) (hf : r.Finds project n a found)
    {b : Backend} (hb : r.backend.Frames project b) {k : Nat} {y : Actor} (hk : n ≠ k)
    (hy : found.actors[k]? = some y) (hopen : y.closed = false) :
    y.memory.asked r.setup y.project b = b.recalled y.project := by
  obtain ⟨hp, hopen', haddressed⟩ := h.intact.addressed.finds hf
  have hne : y.project ≠ project := fun hy' =>
    hk (haddressed.unique hf.actor hy hopen' hopen (hp.trans hy'.symm))
  rcases hf.actors y (List.mem_of_getElem? hy) with hy | rfl
  · have hrow := hb.others y.project hne
    rw [Memory.asked_congr (hb.reaches _) hrow, h.actors y hy hopen]
    rw [Backend.recalled, Backend.recalled, hrow]
  · exact absurd rfl hne

theorem Synced.endsAlike (h : r.Synced) (hpu : project.isUtf8 = true) (hop : op.Plain)
    (hcheck : op.check = .ok ()) : Operation.EndsAlike r.setup project r.backend op :=
  Operation.endsAlike h.keeps h.works h.sound.backend.roomy h.utc hpu hop hcheck
    (fun _ hrow => ProjectTable.intact_get? h.intact.backend hrow)
    ⟨fun _ hrow => ProjectTable.storable_get? h.sound.backend.rows hrow, rfl⟩

/-- Finding the actor of a project adds a new one at most. -/
theorem Synced.of_finds {found : Registry} (h : r.Synced) (hf : r.Finds project n a found)
    (hsound : found.Sound) (hintact : found.Intact) : found.Synced := by
  refine ⟨hsound, hintact, hf.setup ▸ h.keeps, hf.backend ▸ h.works, hf.backend ▸ h.utc, ?_⟩
  intro y hy hopen
  rw [hf.setup, hf.backend]
  rcases hf.actors y hy with hy | rfl
  · exact h.actors y hy hopen
  · exact h.works.asked_empty h.keeps project

/-- Where the actor of a project remembers what a new one would be told then, so do all others. -/
theorem Synced.of_ended {found : Registry} (h : r.Synced) (hf : r.Finds project n a found)
    {m : Memory} {b : Backend} (hframes : r.backend.Frames project b)
    (hm : m.asked r.setup project b = b.recalled project)
    (hsound : Sound { found.setActor n { a with memory := m } with backend := b })
    (hintact : Intact { found.setActor n { a with memory := m } with backend := b }) :
    Synced { found.setActor n { a with memory := m } with backend := b } := by
  refine ⟨hsound, hintact, hf.setup ▸ h.keeps, hframes.works h.works, ?_, ?_⟩
  · show b.clock.now.asUtc = b.clock.now
    rw [hframes.clock]
    exact h.utc
  · intro y hy hopen
    show y.memory.asked found.setup y.project b = b.recalled y.project
    obtain ⟨k, hk⟩ := List.mem_iff_getElem?.mp hy
    rw [Registry.setActor, List.getElem?_set] at hk
    rw [hf.setup]
    split at hk
    · split at hk
      · cases hk
        rw [(h.intact.addressed.finds hf).1]
        exact hm
      · cases hk
    · next hne => exact h.others hf hframes hne hk hopen

/-- An operation ends alike at all registries whose actors remember what new ones would be told, and
leaves them such. -/
theorem Synced.perform (h : r.Synced) (hpu : project.isUtf8 = true) (hop : op.Plain) :
    (r.perform project op).2.Synced ∧
      ∀ r' : Registry, r'.Synced → r'.setup = r.setup → r'.backend = r.backend →
        (r'.perform project op).1 = (r.perform project op).1 ∧
          (r'.perform project op).2.setup = (r.perform project op).2.setup ∧
          (r'.perform project op).2.backend = (r.perform project op).2.backend := by
  by_cases hp : project = []
  · subst hp
    exact ⟨h, fun r' _ hsetup hbackend => ⟨rfl, hsetup, hbackend⟩⟩
  have hsound : (r.perform project op).2.Sound := h.sound.step (x := .perform project op) ⟨hpu, hop⟩
  have hintact : (r.perform project op).2.Intact := h.intact.step (.perform project op)
  obtain ⟨n, a, found, hf⟩ := r.exists_finds hp
  rcases check_eq_ok_or_error op with hcheck | ⟨e, hcheck⟩
  · obtain ⟨o, b, hframes, hruns⟩ := h.endsAlike hpu hop hcheck
    obtain ⟨m, hrun, hm⟩ := hruns a.memory (h.found hf)
    rw [hf.perform_eq hcheck hrun] at hsound hintact ⊢
    refine ⟨h.of_ended hf hframes hm hsound hintact, fun r' h' hsetup hbackend => ?_⟩
    obtain ⟨n', a', found', hf'⟩ := r'.exists_finds hp
    obtain ⟨m', hrun', -⟩ := hruns a'.memory (by rw [← hsetup, ← hbackend]; exact h'.found hf')
    rw [← hsetup, ← hbackend] at hrun'
    rw [hf'.perform_eq hcheck hrun']
    exact ⟨rfl, hf'.setup.trans (hsetup.trans hf.setup.symm), rfl⟩
  · rw [perform_of_bad_check hf hcheck] at hsound hintact ⊢
    refine ⟨h.of_finds hf hsound hintact, fun r' h' hsetup hbackend => ?_⟩
    obtain ⟨n', a', found', hf'⟩ := r'.exists_finds hp
    rw [perform_of_bad_check hf' hcheck]
    exact ⟨rfl, hf'.setup.trans (hsetup.trans hf.setup.symm),
      hf'.backend.trans (hbackend.trans hf.backend.symm)⟩

theorem setup_closeActors (r : Registry) (es : List (Text × Nat)) :
    (es.foldl (fun r e => r.closeActor e.2) r).setup = r.setup := by
  induction es generalizing r with
  | nil => rfl
  | cons e es ih => exact ih _

/-- Starting, releasing and closing actors leaves what is shared as it was, and adds open actors
that are new at most. -/
theorem step_housekeeping (hx : x.isHousekeeping = true) :
    (r.step x).setup = r.setup ∧ (r.step x).backend = r.backend ∧
      ∀ a ∈ (r.step x).actors, a.closed = false → a ∈ r.actors ∨ ∃ p, a = { project := p } := by
  cases x with
  | start project =>
    by_cases hp : project = []
    · rw [Registry.step, get, if_pos hp]
      exact ⟨rfl, rfl, fun a ha _ => .inl ha⟩
    · obtain ⟨n, a, found, hf⟩ := r.exists_finds hp
      rw [Registry.step, hf.get]
      exact ⟨hf.setup, hf.backend, fun y hy _ => (hf.actors y hy).imp_right fun h => ⟨project, h⟩⟩
  | release project =>
    rw [Registry.step, Registry.release]
    split
    · exact ⟨rfl, rfl, fun a ha _ => .inl ha⟩
    · exact ⟨rfl, rfl, fun a ha hopen => .inl (mem_of_mem_closeActor ha hopen)⟩
  | closeActor n => exact ⟨rfl, rfl, fun a ha hopen => .inl (mem_of_mem_closeActor ha hopen)⟩
  | closeAll =>
    refine ⟨setup_closeActors r r.known, backend_closeActors r r.known, fun a ha hopen => .inl ?_⟩
    obtain ⟨k, hk⟩ := List.mem_iff_getElem?.mp ha
    rw [Registry.step, Registry.close, getElem?_closeActors, Option.map_eq_some_iff] at hk
    obtain ⟨y, hy, rfl⟩ := hk
    split at hopen
    · cases hopen
    · next hk => exact (if_neg hk).symm ▸ List.mem_of_getElem? hy
  | perform | setFaults | setClock => cases hx

theorem Synced.housekeeping (h : r.Synced) (hx : x.isHousekeeping = true) : (r.step x).Synced := by
  have hplain : x.Plain := by cases x <;> trivial
  obtain ⟨hsetup, hbackend, hactors⟩ := step_housekeeping (r := r) hx
  refine ⟨h.sound.step hplain, h.intact.step x, hsetup ▸ h.keeps, hbackend ▸ h.works,
    hbackend ▸ h.utc, fun a ha hopen => ?_⟩
  rw [hsetup, hbackend]
  rcases hactors a ha hopen with ha | ⟨p, rfl⟩
  · exact h.actors a ha hopen
  · exact h.works.asked_empty h.keeps p

/-- A step that is no housekeeping is answered alike by registries that share setup and store and
whose actors remember what new ones would be told, and leaves them such. -/
theorem Synced.step (h : r.Synced) (hx : x.Steady) (hkeep : x.isHousekeeping = false) :
    (r.step x).Synced ∧
      ∀ r' : Registry, r'.Synced → r'.setup = r.setup → r'.backend = r.backend →
        r'.outcomes (.step x) = r.outcomes (.step x) ∧ (r'.step x).setup = (r.step x).setup ∧
          (r'.step x).backend = (r.step x).backend := by
  cases x with
  | perform project op =>
    obtain ⟨hperform, halike⟩ := h.perform hx.1 hx.2
    refine ⟨hperform, fun r' h' hsetup hbackend => ?_⟩
    obtain ⟨ho, hs, hb⟩ := halike r' h' hsetup hbackend
    exact ⟨congrArg (fun o => [o]) ho, hs, hb⟩
  | setFaults f =>
    have hsame {r : Registry} (h : r.Synced) : r.step (.setFaults f) = r := by
      rw [Registry.step, show f = Faults.none from hx, ← h.works.faults]
    rw [hsame h]
    refine ⟨h, fun r' h' hsetup hbackend => ?_⟩
    rw [hsame h']
    exact ⟨rfl, hsetup, hbackend⟩
  | setClock t =>
    refine ⟨⟨h.sound.step trivial, h.intact.step _, h.keeps, ⟨h.works.tables, h.works.faults⟩, hx,
      h.actors⟩, fun r' _ hsetup hbackend => ⟨rfl, hsetup, ?_⟩⟩
    simp only [Registry.step, hbackend]
  | start | release | closeActor | closeAll => cases hkeep

/-- A session is answered as it is without its housekeeping. -/
theorem Synced.answers_eq (h : r.Synced) {r' : Registry} (h' : r'.Synced)
    (hsetup : r'.setup = r.setup) (hbackend : r'.backend = r.backend) {steps : List Step}
    (hsteps : ∀ x ∈ steps, x.Steady) :
    r.answers steps = r'.answers (steps.filter fun x => !x.isHousekeeping) := by
  induction steps generalizing r r' with
  | nil => rfl
  | cons x steps ih =>
    rw [List.forall_mem_cons] at hsteps
    cases hx : x.isHousekeeping with
    | true =>
      obtain ⟨hsetup', hbackend', -⟩ := step_housekeeping (r := r) hx
      have hquiet : r.outcomes (.step x) = [] := by cases x <;> first | rfl | nomatch hx
      rw [List.filter_cons_of_neg (by simp [hx]), answers, hquiet, List.nil_append]
      exact ih (h.housekeeping hx) h' (hsetup.trans hsetup'.symm) (hbackend.trans hbackend'.symm)
        hsteps.2
    | false =>
      obtain ⟨hstep, halike⟩ := h.step hsteps.1 hx
      obtain ⟨houtcomes, hsetup', hbackend'⟩ := halike r' h' hsetup hbackend
      rw [List.filter_cons_of_pos (by simp [hx]), answers, answers, houtcomes]
      exact congrArg _ (ih hstep (h'.step hsteps.1 hx).1 hsetup' hbackend' hsteps.2)

/-- Two sessions that differ only in which actors were started, released or closed in between are
answered alike, while the store works. -/
theorem answers_eq_of_restarts {setup : ProjectSetup} {cache : Option (Cache Cached)}
    {clock : Clock} (hkeeps : setup.keepsProjects = true) (hcache : ∀ c ∈ cache, 1 ≤ c.policy.capacity)
    (hclock : clock.now.asUtc = clock.now) {steps steps' : List Step}
    (hsteps : ∀ x ∈ steps, x.Steady) (hsteps' : ∀ x ∈ steps', x.Steady)
    (h : (steps.filter fun x => !x.isHousekeeping) = steps'.filter fun x => !x.isHousekeeping) :
    (opened setup cache clock).answers steps = (opened setup cache clock).answers steps' := by
  have hsynced := synced_opened hkeeps hcache hclock
  rw [hsynced.answers_eq hsynced rfl rfl hsteps, h, ← hsynced.answers_eq hsynced rfl rfl hsteps']

/-- A project is created, edited, synchronised under another name, looked at and deleted, while time
passes. -/
def lifeSession : List Step :=
  [.perform "p" (.create (.text "ada") (.text "demo") .nothing (some (.ofList [("a.js", "1")]))),
    .setClock { now := { seconds := 60 } },
    .perform "p" (.write [⟨"b.js", .create, some "2"⟩]),
    .setClock { now := { seconds := 90 } },
    .perform "p" (.sync (.ofList [("b.js", "3")]) (.text "bob") .nothing (.text "show")),
    .perform "p" .status,
    .perform "p" .summary,
    .perform "p" (.history none),
    .perform "p" .delete,
    .perform "p" .snapshot]

/-- The same with the actor released before every step. -/
def releasedSession : List Step := lifeSession.flatMap fun x => [.release "p", x]

theorem answers_eq_of_restarts_releasedSession :
    (opened {} (some {}) { now := { seconds := 0 } }).answers releasedSession =
      (opened {} (some {}) { now := { seconds := 0 } }).answers lifeSession := by
  have hlife : ∀ x ∈ lifeSession, x.Steady := by
    have hada : Given.Written (.text "ada") := ⟨"ada", by decide, rfl⟩
    have hbob : Given.Written (.text "bob") := ⟨"bob", by decide, rfl⟩
    have hdemo : Given.Written (.text "demo") := ⟨"demo", by decide, rfl⟩
    have hshow : Given.WrittenOrNothing (.text "show") := ⟨some "show", by decide, rfl⟩
    have hnothing : Given.WrittenOrNothing .nothing := ⟨none, by decide, rfl⟩
    simp only [lifeSession, List.forall_mem_cons, List.not_mem_nil, false_imp_iff, implies_true,
      and_true, Step.Steady, Operation.Plain, hada, hbob, hdemo, hshow, hnothing]
    decide
  have hreleased : ∀ x ∈ releasedSession, x.Steady := by
    intro x hx
    obtain ⟨y, hy, hxy⟩ := List.mem_flatMap.mp hx
    rcases List.mem_pair.mp hxy with rfl | rfl
    · trivial
    · exact hlife x hy
  have hcache : ∀ c ∈ (some {} : Option (Cache Cached)), 1 ≤ c.policy.capacity := by
    intro c hc
    rw [← Option.some.inj hc]
    decide
  exact answers_eq_of_restarts rfl hcache rfl hreleased hlife rfl

end Registry

end SitePreview
