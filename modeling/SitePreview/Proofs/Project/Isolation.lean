import SitePreview.Proofs.Project.Serving
import SitePreview.Proofs.Project.Undated
import SitePreview.Proofs.Trail.AppendOrder

/-! Isolation of projects. While the store works, a registry answers the operations on a project as
a machine would that has the record and the versions of this project alone. So it makes no
difference to these answers what is done with other projects, how many entries the cache has room
for, and when operations and housekeeping take place, but for the numbers of rows and the dates. -/

namespace SitePreview

/-- What there is of a project, without dates: its record if it has one, and its versions, the
newest first. -/
structure ProjectView where
  record : Option ProjectRecord := none
  versions : List VersionRecord := []

namespace ProjectView

def take (p : ProjectView) : Course → Outcome × ProjectView
  | .answer a => (.ok a, p)
  | .refuse _ e => (.error e, p)
  | .commit v r _ report =>
    (.ok (report v.isSome), {
      record := some r
      versions := (v.map fun v => (VersionTable.stored 0 v).undated).toList ++ p.versions })

def page (p : ProjectView) (s : ProjectSetup) (limit : Option PageLength) : Outcome :=
  if !s.keepsVersions then .ok (.history .unavailable)
  else if limit.all s.limits.canCut then
    .ok (.history ⟨p.versions.take (s.limits.effective limit).toNat, true⟩)
  else .error .wrongKind

/-- The answer to an operation that passes its check, and what there is of the project then. -/
def respond (p : ProjectView) (s : ProjectSetup) (project : Text) :
    Operation → Outcome × ProjectView
  | .summary =>
    match p.record with
    | none => (.error (.notFound project), p)
    | some r => (.ok (.summary r.files.summary), p)
  | .history limit => (p.page s limit, p)
  | .delete =>
    (.ok (.deleted p.record.isSome), { versions := if s.keepsVersions then [] else p.versions })
  | op =>
    p.take (((op.course? s project .epoch { record := p.record, loaded := true }).map
      Course.undated).getD (.refuse none (.notFound project)))

def perform (p : ProjectView) (s : ProjectSetup) (project : Text) (op : Operation) :
    Outcome × ProjectView :=
  if project = [] then (.error .emptyId, p)
  else
    match op.check with
    | .error e => (.error e, p)
    | .ok _ => p.respond s project op

/-- The answers to operations one after another. -/
def answers (s : ProjectSetup) (project : Text) : ProjectView → List Operation → List Outcome
  | _, [] => []
  | p, op :: ops => (p.perform s project op).1 :: answers s project (p.perform s project op).2 ops

end ProjectView

def Outcome.undated (o : Outcome) : Outcome := o.map Answer.undated

theorem VersionTable.newestFirst_append_self {t : VersionTable} (h : t.Ascending)
    (v : VersionRecord) :
    (t.append v).newestFirst v.projectId =
      (t.nextId, stored t.nextId v) :: t.newestFirst v.projectId := by
  rw [newestFirst_eq_reverse (h.append v), newestFirst_eq_reverse h, append, List.filter_append]
  simp [stored]

theorem VersionTable.newestFirst_erase_self (t : VersionTable) (project : Text) :
    (t.erase project).newestFirst project = [] := by
  rw [newestFirst, erase, List.filter_filter]
  simp

/-- A store that works, all of whose rows are such as it can keep, at a time that the clock shows as
universal time. -/
structure Backend.Ready (b : Backend) : Prop where
  works : b.Works
  sound : b.Sound
  intact : b.Intact
  ascending : b.database.versions.Ascending
  utc : b.clock.now.asUtc = b.clock.now

/-- The store has of the project what `p` says, and the cache no other summary of it. -/
structure Backend.Shows (project : Text) (b : Backend) (p : ProjectView) : Prop where
  record : (b.database.projects.get? project).map ProjectRecord.undated = p.record
  versions : ((b.database.versions.newestFirst project).map fun row => row.2.undated) = p.versions
  summaries : ∀ v, b.summaryOf? project = some v →
    ∃ r, p.record = some r ∧ v = .summary r.files.summary

namespace Backend

variable {project : Text} {a b : Backend} {p : ProjectView} {s : ProjectSetup}

theorem Shows.of_same (h : a.Shows project p)
    (hrow : b.database.projects.get? project = a.database.projects.get? project)
    (hversions : b.database.versions.newestFirst project =
      a.database.versions.newestFirst project)
    (hsummaries : ∀ v, b.summaryOf? project = some v → a.summaryOf? project = some v) :
    b.Shows project p where
  record := by rw [hrow, h.record]
  versions := by rw [hversions, h.versions]
  summaries v hv := h.summaries v (hsummaries v hv)

theorem Shows.of_confines {other : Text} (h : a.Shows project p) (hb : a.Confines other b)
    (hp : project ≠ other) : b.Shows project p :=
  h.of_same (hb.others project hp) (hb.versions project hp) (hb.summaries project hp)

theorem Shows.recalled (h : b.Shows project p) :
    (b.recalled project).undated = { record := p.record, loaded := true } := by
  rw [Backend.recalled, Memory.undated, ← h.record]

theorem refreshed_database (b : Backend) (project : Text) (files : FileSet) :
    (b.refreshed project files).database = b.database := rfl

theorem saved_versions_eq (b : Backend) (s : ProjectSetup) (r : ProjectRecord) :
    (b.saved s r).database.versions = b.database.versions := by
  rw [saved]
  split <;> rfl

theorem forgotten_versions_eq (b : Backend) (s : ProjectSetup) (project : Text) :
    (b.forgotten s project).database.versions = b.database.versions := by
  rw [forgotten]
  split <;> rfl

/-- Behind a record that was committed, the store shows it, and its version if there is one. -/
theorem Shows.committed (h : b.Shows project p) (hb : b.Ready) (hs : s.keepsProjects = true)
    {v : Option VersionRecord} {r : ProjectRecord} (hv : ∀ w ∈ v, w.projectId = project)
    (hr : r.Succeeds project b.clock.now (b.database.projects.get? project)) :
    (((b.offered v).saved s r).refreshed project r.files).Shows project
      { record := some r.undated
        versions := (v.map fun v => (VersionTable.stored 0 v).undated).toList ++ p.versions } := by
  have hframes : b.Frames project (b.offered v) := b.frames_offered v
  refine ⟨?_, ?_, ?_⟩
  · rw [refreshed_database, (hframes.works hb.works).get?_saved hs]
    · rfl
    · rw [offered_projects, hframes.clock]
      exact hr
    · rw [hframes.clock]
      exact hb.utc
  · rw [refreshed_database, saved_versions_eq]
    cases v with
    | none => exact h.versions
    | some w =>
      have hw : w.projectId = project := hv w rfl
      rw [offered, hb.works.reaches]
      show List.map _ ((b.database.versions.append w).newestFirst project) = _
      rw [← hw, VersionTable.newestFirst_append_self hb.ascending, List.map_cons, hw, h.versions]
      rfl
  · intro x hx
    have hx := summaryOf?_of_refreshed hx
    rw [if_pos rfl] at hx
    exact ⟨_, rfl, hx⟩

theorem Shows.deleted (hb : b.Ready) (h : b.Shows project p) (hs : s.keepsProjects = true) :
    (((b.forgotten s project).purged s project).invalidated project).Shows project
      { versions := if s.keepsVersions then [] else p.versions } := by
  refine ⟨?_, ?_, fun x hx => ?_⟩
  · show (((b.forgotten s project).purged s project).database.projects.get? project).map _ = _
    rw [purged_projects, hb.works.get?_forgotten hs]
    rfl
  · show (((b.forgotten s project).purged s project).database.versions.newestFirst project).map _ =
      _
    have hframes : b.Frames project (b.forgotten s project) := b.frames_forgotten
    rw [purged, purges, (hframes.works hb.works).reaches]
    cases s.keepsVersions with
    | true =>
      show (((b.forgotten s project).database.versions.erase project).newestFirst project).map _ =
        _
      rw [VersionTable.newestFirst_erase_self]
      rfl
    | false =>
      show ((b.forgotten s project).database.versions.newestFirst project).map _ = _
      rw [forgotten_versions_eq, h.versions]
      rfl
  · rw [summaryOf?_invalidated, if_pos rfl] at hx
    cases hx

end Backend

namespace Operation

open Routine

variable {s : ProjectSetup} {project : Text} {m : Memory} {b : Backend} {p : ProjectView}
  {op : Operation}

theorem run_page_of_works (hb : b.Works) (hpu : project.isUtf8 = true)
    (limit : Option PageLength) :
    (Ledger.page s project limit).run m b =
      (if !s.keepsVersions then .ok .unavailable
        else if limit.all s.limits.canCut then
          .ok ⟨((b.database.versions.newestFirst project).map Prod.snd).take
            (s.limits.effective limit).toNat, true⟩
        else .error .wrongKind, m, b) := by
  have hlength : ¬s.limits.effective limit < 0 := by
    have := le_max_left 1
      (min ((limit.map PageLength.length).getD s.limits.default) s.limits.maximum)
    rw [HistoryLimits.effective]
    omega
  rw [Ledger.page]
  cases s.keepsVersions with
  | false => rfl
  | true =>
    have hcall := Backend.perform_of_reaches
      (c := .listVersions project (s.limits.effective limit)) (hb.reaches _)
      (StoreCall.plain_of_texts rfl hpu)
    simp only [Bool.not_true, Bool.false_eq_true, if_false, run_ask_bind, hcall, Database.apply,
      VersionTable.recent, if_neg hlength]
    split
    · rw [List.map_take, List.take_take, min_self]
      rfl
    · rfl

theorem respond_of_course? {x : Course} {now : Timestamp} (h : b.Shows project p)
    (hx : op.course? s project now (b.recalled project) = some x) :
    p.respond s project op = p.take x.undated := by
  have hcourse := undated_course? s project now (b.recalled project) op
  rw [hx, h.recalled] at hcourse
  rw [ProjectView.respond]
  · rw [← hcourse]
    rfl
  · rintro rfl
    cases hx
  · rintro limit rfl
    cases hx
  · rintro rfl
    cases hx

/-- The operation is answered as the project alone would have it, and the store shows the project as
it is then. -/
structure RunsAs (s : ProjectSetup) (project : Text) (m : Memory) (b : Backend) (p : ProjectView)
    (op : Operation) : Prop where
  answer : Outcome.undated ((op.routine s project).run m b).1 = (p.respond s project op).1
  shows : ((op.routine s project).run m b).2.2.Shows project (p.respond s project op).2

theorem RunsAs.of_run {o a : Outcome} {m' : Memory} {b' : Backend} {q : ProjectView}
    (hrun : (op.routine s project).run m b = (o, m', b'))
    (hresponse : p.respond s project op = (a, q)) (hanswer : o.undated = a)
    (hshows : b'.Shows project q) : RunsAs s project m b p op where
  answer := by rw [hrun, hresponse, hanswer]
  shows := by
    rw [hrun, hresponse]
    exact hshows

section

variable (hs : s.keepsProjects = true) (hb : b.Ready) (hpu : project.isUtf8 = true)
  (hm : m.asked s project b = b.recalled project) (h : b.Shows project p)

include hs hb hpu hm h in
theorem runsAs_of_course {x : Course} (hop : op.Plain) (hcheck : op.check = .ok ())
    (hx : op.course? s project b.clock.now (b.recalled project) = some x) :
    RunsAs s project m b p op := by
  have hsound : (b.recalled project).Sound :=
    ⟨fun _ hrow => ProjectTable.storable_get? hb.sound.rows hrow, rfl⟩
  have hintact : (b.recalled project).Intact project :=
    fun _ hrow => ProjectTable.intact_get? hb.intact hrow
  have hresponse := respond_of_course? h hx
  rw [← hm] at hx hsound hintact
  rcases run_plain hb.works.bearable hb.sound.roomy hpu hop hcheck hsound hx with
    ⟨a, rfl, hrun⟩ | ⟨e, rfl, hrun⟩ | ⟨v, r, report, rfl, hcommits, -, -, hrun⟩
  · exact .of_run hrun hresponse rfl h
  · exact .of_run hrun hresponse rfl h
  · have hsucceeds := hcommits.succeeds hcheck hintact
    rw [hm] at hsucceeds
    have hshows := h.committed hb hs hcommits.version hsucceeds
    rw [Backend.takes, hb.works.reaches, Bool.and_true] at hrun
    cases v with
    | none => exact .of_run hrun hresponse rfl hshows
    | some w => exact .of_run hrun hresponse rfl hshows

include hb hpu hm h in
/-- A summary is that of the files, whether it is found in the cache or made anew. -/
theorem runsAs_summary : RunsAs s project m b p .summary := by
  have hrun := run_summarize (s := s) (m := m) hb.works.bearable hb.sound.roomy hpu
  have hlooked : (b.lookedUp project).2.Shows project p := by
    refine h.of_same ?_ ?_ fun v => Backend.summaryOf?_of_lookedUp
    · rw [b.lookedUp_eq_withCache]
      rfl
    · rw [b.lookedUp_eq_withCache]
      rfl
  have hresponse : p.respond s project .summary =
      match p.record with
      | none => (.error (.notFound project), p)
      | some r => (.ok (.summary r.files.summary), p) := rfl
  rw [hm] at hrun
  cases hknown : (b.lookedUp project).1 with
  | some known =>
    obtain ⟨r, hr, hv⟩ := h.summaries _ (Backend.summaryOf?_of_found hknown)
    cases hv
    simp only [hknown] at hrun
    rw [hr] at hresponse
    exact .of_run hrun hresponse rfl hlooked
  | none =>
    simp only [hknown] at hrun
    rw [← h.record] at hresponse
    cases hr : (b.recalled project).record with
    | none =>
      simp only [hr] at hrun
      rw [show b.database.projects.get? project = none from hr] at hresponse
      exact .of_run hrun hresponse rfl hlooked
    | some r =>
      simp only [hr] at hrun
      have hrecord := h.record
      rw [show b.database.projects.get? project = some r from hr] at hresponse hrecord
      refine .of_run hrun hresponse rfl ⟨hlooked.record, hlooked.versions, fun v hv => ?_⟩
      have hv := Backend.summaryOf?_of_refreshed hv
      rw [if_pos rfl] at hv
      exact ⟨_, hrecord.symm, hv⟩

include hs hb hpu hm h in
theorem runsAs_delete : RunsAs s project m b p .delete := by
  have hexisted : (b.forgets s project || (b.recalled project).record.isSome) =
      p.record.isSome := by
    rw [Backend.forgets, hs, hb.works.reaches, Bool.true_and, Bool.true_and, ← h.record,
      Option.isSome_map]
    exact Bool.or_self _
  have hrun := run_remove_eq (s := s) (m := m) hb.works.bearable hpu
  rw [hm, hexisted] at hrun
  exact .of_run hrun rfl rfl (Backend.Shows.deleted hb h hs)

include hb hpu h in
theorem runsAs_history (limit : Option PageLength) : RunsAs s project m b p (.history limit) := by
  have hpage := run_page_of_works (s := s) (m := m) hb.works hpu limit
  have hresponse : p.respond s project (.history limit) = (p.page s limit, p) := rfl
  rw [ProjectView.page, ← h.versions] at hresponse
  cases hkeeps : s.keepsVersions with
  | false =>
    simp only [hkeeps, Bool.not_false, if_true] at hpage hresponse
    exact .of_run (run_bind_ok _ hpage) hresponse rfl h
  | true =>
    cases hcuts : limit.all s.limits.canCut with
    | false =>
      simp only [hkeeps, hcuts, Bool.not_true, Bool.false_eq_true, if_false] at hpage hresponse
      exact .of_run (run_bind_error _ hpage) hresponse rfl h
    | true =>
      simp only [hkeeps, hcuts, Bool.not_true, Bool.false_eq_true, if_false, if_true]
        at hpage hresponse
      have hrows (n : Nat) :
          (((b.database.versions.newestFirst project).map Prod.snd).take n).map
              VersionRecord.undated =
            ((b.database.versions.newestFirst project).map fun row => row.2.undated).take n := by
        rw [List.map_take, List.map_map]
        rfl
      exact .of_run (run_bind_ok _ hpage) hresponse
        (congrArg (fun vs => Except.ok (Answer.history ⟨vs, true⟩)) (hrows _)) h

include hs hb hpu hm h in
/-- From a store that is ready, an actor that remembers what a new one would be told answers as the
project alone would have it, and the store shows the project as it is then. -/
theorem runsAs (hop : op.Plain) (hcheck : op.check = .ok ()) : RunsAs s project m b p op := by
  cases hx : op.course? s project b.clock.now (b.recalled project) with
  | some x => exact runsAs_of_course hs hb hpu hm h hop hcheck hx
  | none =>
    rcases course?_eq_none hx with rfl | rfl | ⟨limit, rfl⟩
    · exact runsAs_summary hb hpu hm h
    · exact runsAs_delete hs hb hpu hm h
    · exact runsAs_history hb hpu h limit

end

end Operation

namespace Registry

variable {r : Registry} {project : Text} {op : Operation} {p : ProjectView} {x : Step}

/-- The operation that a step is on this project. -/
def Step.operationOn? (project : Text) : Step → Option Operation
  | perform q op => if q = project then some op else none
  | _ => none

/-- What the operations on one project are answered in a session. -/
def answersOn (project : Text) (r : Registry) : List Step → List Outcome
  | [] => []
  | x :: steps =>
    ((x.operationOn? project).map fun op => (r.perform project op).1).toList ++
      (r.step x).answersOn project steps

theorem Synced.ready (h : r.Synced) : r.backend.Ready where
  works := h.works
  sound := h.sound.backend
  intact := h.intact.backend
  ascending := h.sound.ascending
  utc := h.utc

theorem Synced.asked_memoryOf (h : r.Synced) (project : Text) :
    (r.memoryOf project).asked r.setup project r.backend = r.backend.recalled project := by
  by_cases hex : ∃ a ∈ r.actors, a.closed = false ∧ a.project = project
  · obtain ⟨a, ha, hopen, rfl⟩ := hex
    rw [h.intact.addressed.memoryOf_eq ha hopen]
    exact h.actors a ha hopen
  · rw [h.intact.addressed.memoryOf_eq_empty fun a ha hopen hp => hex ⟨a, ha, hopen, hp⟩]
    exact h.works.asked_empty h.keeps project

/-- The actors remember what the store has, and of the project this is what `p` says. -/
structure Follows (r : Registry) (project : Text) (p : ProjectView) : Prop extends
    r.Synced where
  shows : r.backend.Shows project p

theorem follows_opened {setup : ProjectSetup} {cache : Option (Cache Cached)} {clock : Clock}
    (hkeeps : setup.keepsProjects = true)
    (hcache : ∀ c ∈ cache, 1 ≤ c.policy.capacity ∧ c.entries = [])
    (hclock : clock.now.asUtc = clock.now) (project : Text) :
    (opened setup cache clock).Follows project {} where
  toSynced := synced_opened hkeeps (fun c hc => (hcache c hc).1) hclock
  shows := by
    refine ⟨rfl, by simp [opened, VersionTable.newestFirst], fun v hv => ?_⟩
    rw [summaryOf?_opened setup clock (fun c hc => (hcache c hc).2)] at hv
    cases hv

/-- An operation on the project is answered as the project alone would have it. -/
theorem Follows.perform (h : r.Follows project p) (hpu : project.isUtf8 = true) (hop : op.Plain) :
    Outcome.undated (r.perform project op).1 = (p.perform r.setup project op).1 ∧
      (r.perform project op).2.Follows project (p.perform r.setup project op).2 := by
  have hsynced := (h.toSynced.perform hpu hop).1
  by_cases hp : project = []
  · rw [ProjectView.perform, if_pos hp]
    subst hp
    exact ⟨rfl, h⟩
  rw [ProjectView.perform, if_neg hp]
  rcases check_eq_ok_or_error op with hcheck | ⟨e, hcheck⟩
  · obtain ⟨ho, -, hb, -⟩ := h.intact.addressed.perform_eq hp hcheck rfl
    have hruns := Operation.runsAs h.keeps h.ready hpu (h.asked_memoryOf project) h.shows hop hcheck
    rw [hcheck, ho]
    exact ⟨hruns.answer, hsynced, hb ▸ hruns.shows⟩
  · obtain ⟨n, a, found, hf⟩ := r.exists_finds hp
    rw [perform_of_bad_check hf hcheck] at hsynced ⊢
    rw [hcheck]
    exact ⟨rfl, hsynced, hf.backend ▸ h.shows⟩

/-- An operation on another project leaves this one what it is. -/
theorem Follows.perform_of_ne {q : Text} (h : r.Follows project p) (hq : project ≠ q)
    (hqu : q.isUtf8 = true) (hop : op.Plain) : (r.perform q op).2.Follows project p := by
  have hsynced := (h.toSynced.perform hqu hop).1
  by_cases hrejected : q = [] ∨ op.check ≠ .ok ()
  · obtain ⟨-, -, hb, -⟩ := h.intact.addressed.perform_of_rejected hrejected
    exact ⟨hsynced, hb ▸ h.shows⟩
  · rw [not_or, not_not] at hrejected
    obtain ⟨o, m, b, hending, -, -, hb, -⟩ := h.intact.perform_ending hrejected.1 hrejected.2
    exact ⟨hsynced, hb ▸ h.shows.of_confines (hending.confines h.sound.backend.roomy) hq⟩

theorem setup_perform (r : Registry) (project : Text) (op : Operation) :
    (r.perform project op).2.setup = r.setup := by
  by_cases hp : project = []
  · subst hp
    rfl
  obtain ⟨n, a, found, hf⟩ := r.exists_finds hp
  rcases check_eq_ok_or_error op with hcheck | ⟨e, hcheck⟩
  · rw [hf.perform_eq hcheck rfl]
    exact hf.setup
  · rw [perform_of_bad_check hf hcheck]
    exact hf.setup

theorem setup_step (r : Registry) (x : Step) : (r.step x).setup = r.setup := by
  cases x with
  | perform q op => exact r.setup_perform q op
  | start q => exact (step_housekeeping (x := .start q) rfl).1
  | release q => exact (step_housekeeping (x := .release q) rfl).1
  | closeAll => exact (step_housekeeping (x := .closeAll) rfl).1
  | closeActor | setFaults | setClock => rfl

/-- Whatever is done that is no operation on the project leaves it what it is. -/
theorem Follows.step_of_other (h : r.Follows project p) (hx : x.Steady)
    (hother : x.operationOn? project = none) : (r.step x).Follows project p := by
  cases hkeep : x.isHousekeeping with
  | true =>
    obtain ⟨-, hb, -⟩ := step_housekeeping (r := r) hkeep
    exact ⟨h.toSynced.housekeeping hkeep, hb ▸ h.shows⟩
  | false =>
    have hsynced := (h.toSynced.step hx hkeep).1
    cases x with
    | perform q op =>
      have hq : project ≠ q := by
        rintro rfl
        simp [Step.operationOn?] at hother
      exact h.perform_of_ne hq hx.1 hx.2
    | setFaults f => exact ⟨hsynced, h.shows.of_same rfl rfl fun _ hv => hv⟩
    | setClock t => exact ⟨hsynced, h.shows.of_same rfl rfl fun _ hv => hv⟩
    | start | release | closeActor | closeAll => cases hkeep

/-- In a session, the operations on a project are answered as the project alone would have it. -/
theorem Follows.answersOn_eq (h : r.Follows project p) {steps : List Step}
    (hsteps : ∀ x ∈ steps, x.Steady) :
    (r.answersOn project steps).map Outcome.undated =
      p.answers r.setup project (steps.filterMap (Step.operationOn? project)) := by
  induction steps generalizing r p with
  | nil => rfl
  | cons x steps ih =>
    rw [List.forall_mem_cons] at hsteps
    rw [answersOn]
    cases hop : x.operationOn? project with
    | none =>
      rw [List.filterMap_cons_none hop, ← r.setup_step x]
      exact ih (h.step_of_other hsteps.1 hop) hsteps.2
    | some op =>
      have hx : x = .perform project op := by
        cases x with
        | perform q op' =>
          rw [Step.operationOn?, Option.ite_none_right_eq_some] at hop
          rw [hop.1, Option.some.inj hop.2]
        | start | release | closeActor | closeAll | setFaults | setClock => cases hop
      subst hx
      obtain ⟨hanswer, hfollows⟩ := h.perform hsteps.1.1 hsteps.1.2
      rw [List.filterMap_cons_some hop, ProjectView.answers, Option.map_some, Option.toList_some,
        List.singleton_append, List.map_cons, hanswer]
      rw [← r.setup_perform project op] at hfollows ⊢
      exact congrArg _ (ih hfollows hsteps.2)

/-- Two sessions with the same operations on a project, over new caches with room and a store that
does not fail, answer them alike, numbers of rows and dates apart: whatever is done in between with
other projects and their actors, and whenever. -/
theorem answersOn_eq_of_operationsOn {setup : ProjectSetup} {cache cache' : Option (Cache Cached)}
    {clock clock' : Clock} (hkeeps : setup.keepsProjects = true)
    (hcache : ∀ c ∈ cache, 1 ≤ c.policy.capacity ∧ c.entries = [])
    (hcache' : ∀ c ∈ cache', 1 ≤ c.policy.capacity ∧ c.entries = [])
    (hclock : clock.now.asUtc = clock.now) (hclock' : clock'.now.asUtc = clock'.now)
    {project : Text} {steps steps' : List Step} (hsteps : ∀ x ∈ steps, x.Steady)
    (hsteps' : ∀ x ∈ steps', x.Steady)
    (h : steps.filterMap (Step.operationOn? project) =
      steps'.filterMap (Step.operationOn? project)) :
    ((opened setup cache clock).answersOn project steps).map Outcome.undated =
      ((opened setup cache' clock').answersOn project steps').map Outcome.undated := by
  rw [(follows_opened hkeeps hcache hclock project).answersOn_eq hsteps, h]
  exact ((follows_opened hkeeps hcache' hclock' project).answersOn_eq hsteps').symm

/-- Two projects share a cache with room for one summary. -/
def sharedLife : List Step :=
  [.perform "p" (.create (.text "ada") (.text "demo") .nothing (some (.ofList [("a.js", "1")]))),
    .perform "q" (.create (.text "bob") (.text "show") .nothing (some (.ofList [("a.js", "2")]))),
    .perform "p" .summary,
    .perform "q" .summary,
    .setClock { now := { seconds := 60 } },
    .perform "q" (.sync (.ofList [("b.js", "3")]) (.text "bob") .nothing .nothing),
    .perform "p" (.write [⟨"b.js", .create, some "4"⟩]),
    .release "q",
    .perform "q" .delete,
    .perform "p" .summary,
    .perform "p" .status,
    .perform "p" (.history none)]

/-- The same with one project alone. -/
def lonelyLife : List Step :=
  sharedLife.filter fun x => match x with
    | .perform project _ | .release project => project = "p"
    | _ => true

theorem answersOn_eq_of_operationsOn_sharedLife :
    let r := opened {} (some { policy := { capacity := 1 } }) { now := { seconds := 0 } }
    (r.answersOn "p" sharedLife).map Outcome.undated =
      (r.answersOn "p" lonelyLife).map Outcome.undated := by
  have hshared : ∀ x ∈ sharedLife, x.Steady := by
    have hada : Given.Written (.text "ada") := ⟨"ada", by decide, rfl⟩
    have hbob : Given.Written (.text "bob") := ⟨"bob", by decide, rfl⟩
    have hdemo : Given.Written (.text "demo") := ⟨"demo", by decide, rfl⟩
    have hshow : Given.Written (.text "show") := ⟨"show", by decide, rfl⟩
    have hnothing : Given.WrittenOrNothing .nothing := ⟨none, by decide, rfl⟩
    simp only [sharedLife, List.forall_mem_cons, List.not_mem_nil, false_imp_iff, implies_true,
      and_true, Step.Steady, Operation.Plain, hada, hbob, hdemo, hshow, hnothing]
    decide
  have hlonely : ∀ x ∈ lonelyLife, x.Steady := fun x hx => hshared x (List.mem_of_mem_filter hx)
  have hcache : ∀ c ∈ (some { policy := { capacity := 1 } } : Option (Cache Cached)),
      1 ≤ c.policy.capacity ∧ c.entries = [] := by
    intro c hc
    rw [← Option.some.inj hc]
    exact ⟨le_refl 1, rfl⟩
  exact answersOn_eq_of_operationsOn rfl hcache hcache rfl rfl hshared hlonely rfl

end Registry

end SitePreview
