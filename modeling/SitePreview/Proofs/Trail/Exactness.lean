import SitePreview.Proofs.Project.Session

/-! The version trail is exact: behind any session, the records that the store lists for a project
are those that its callers can reckon from the answers they got and the files that the project
showed before each operation. -/

namespace SitePreview.Registry

variable {r : Registry} {project : Text} {op : Operation}

/-- The files that the project shows, if there is one. -/
def filesOf? (r : Registry) (project : Text) : Option FileSet :=
  match (r.perform project .snapshot).1 with
  | .ok (.files files) => some files
  | _ => none

/-- The record of a change that is appended now. -/
def nextRecord (r : Registry) (project actor : Text) (message : Option Text) (d : SyncResult) :
    VersionRecord :=
  { id := some r.backend.database.versions.nextId
    projectId := project
    actorId := actor
    filesHash := d.hash
    changedFiles := d.changedPaths
    removedFiles := d.removedPaths
    message := message
    createdAt := r.backend.clock.now.asUtc }

/-- The record that an operation is to write, with the changes from the files that the project shows
before it. -/
def record? (r : Registry) (project : Text) (op : Operation) : Option VersionRecord :=
  match op.version? with
  | some (.text actor, message, files) =>
    match SyncResult.between (r.filesOf? project) files with
    | .ok d => some (r.nextRecord project actor message.text? d)
    | .error _ => none
  | _ => none

/-- The trail of a project behind a step, reckoned from its trail before it: an accepted creation or
replacement adds its record if the store appends it, and an accepted deletion whose purge succeeds
empties it. -/
def trailAfter (r : Registry) (project : Text) (trail : List VersionRecord) :
    Step → List VersionRecord
  | .perform p op =>
    match (r.perform p op).1 with
    | .error _ => trail
    | .ok _ =>
      if p ≠ project then trail
      else if op = .delete then if r.backend.purges r.setup then [] else trail
      else if r.backend.appends r.setup then trail ++ (r.record? p op).toList
      else trail
  | _ => trail

/-- The trail of a project behind a session. -/
def trailOf (r : Registry) (project : Text) (trail : List VersionRecord) :
    List Step → List VersionRecord
  | [] => trail
  | x :: steps => (r.step x).trailOf project (r.trailAfter project trail x) steps

theorem Finds.filesOf?_eq {n : Nat} {a : Actor} {found : Registry}
    (h : r.Finds project n a found) (hr : r.Sound) (hpu : project.isUtf8 = true) :
    r.filesOf? project =
      (a.memory.asked r.setup project r.backend).record.map ProjectRecord.files := by
  have hcheck : Operation.snapshot.check = .ok () := rfl
  have hcurrent :=
    Operation.run_current (s := r.setup) (m := a.memory) hr.backend.bearable hpu
  cases hrec : (a.memory.asked r.setup project r.backend).record with
  | none =>
    rw [hrec] at hcurrent
    rw [filesOf?, h.perform_eq hcheck (Routine.run_bind_error _ hcurrent)]
    rfl
  | some record =>
    rw [hrec] at hcurrent
    rw [filesOf?, h.perform_eq hcheck (Routine.run_bind_ok _ hcurrent)]
    rfl

theorem Finds.record?_eq {n : Nat} {a : Actor} {found : Registry} {actor : Text}
    {message : Option Text} {files : FileSet} {d : SyncResult} (h : r.Finds project n a found)
    (hr : r.Sound) (hpu : project.isUtf8 = true)
    (hversion : op.version? = some (.text actor, .ofText? message, files))
    (hd : d.Outcome
      ((a.memory.asked r.setup project r.backend).record.map ProjectRecord.files) files) :
    r.record? project op = some (r.nextRecord project actor message d) := by
  rw [record?, hversion]
  dsimp only
  rw [h.filesOf?_eq hr hpu, hd.eq, Given.text?_ofText?]

/-- The row of a change is the record that is appended now. -/
theorem trail_append_ofChange (hr : r.Sound) {p actor : Text} {message : Option Text}
    {d : SyncResult} (hd : d.Storable) (project : Text) :
    (r.backend.database.versions.append
        (.ofChange r.backend.clock.now p actor d message)).trail project =
      if p = project then
        r.backend.database.versions.trail project ++ [r.nextRecord p actor message d]
      else r.backend.database.versions.trail project := by
  rw [VersionTable.trail_append hr.ascending, VersionRecord.stored_ofChange _ hd]
  rfl

/-- One step changes the trail of every project as reckoned. -/
theorem trail_step (hr : r.Sound) {x : Step} (hx : x.Plain) (project : Text) :
    (r.step x).backend.database.versions.trail project =
      r.trailAfter project (r.backend.database.versions.trail project) x := by
  cases x with
  | perform p op =>
    obtain ⟨hpu, hop⟩ := hx
    obtain ⟨-, -, ⟨e, he, hversions⟩ | ⟨n, a, found, hfinds, -, heffect⟩⟩ :=
      perform_spec hr hpu hop
    · simp only [step, trailAfter, he, hversions]
    · rw [step, trailAfter]
      generalize (r.perform p op).1 = o at heffect
      generalize (r.perform p op).2.backend.database.versions = t at heffect
      cases heffect with
      | refused => rfl
      | unversioned answer hdelete hversion => simp [hdelete, record?, hversion]
      | deleted existed =>
        have herase := VersionTable.trail_erase hr.ascending p project
        by_cases hp : p = project
        · subst hp
          cases r.backend.purges r.setup <;> simp [herase]
        · rw [if_neg hp] at herase
          cases r.backend.purges r.setup <;> simp [hp, herase]
      | versioned hversion hfiles hplain hd hanswer =>
        have hdelete : op ≠ .delete := by
          rintro rfl
          cases hversion
        have hrecord := hfinds.record?_eq hr hpu hversion hd
        cases r.backend.appends r.setup with
        | false => simp [hdelete]
        | true =>
          dsimp only
          rw [if_pos rfl, trail_append_ofChange hr hd.storable, hrecord, if_neg hdelete, if_pos rfl]
          exact (ite_not ..).symm
  | start p =>
    by_cases hp : p = []
    · rw [step, get, if_pos hp]
      rfl
    · obtain ⟨n, a, found, hfinds⟩ := r.exists_finds hp
      rw [step, hfinds.get]
      exact congrArg (fun b => b.database.versions.trail project) hfinds.backend
  | release p =>
    rw [step, release]
    split <;> rfl
  | closeAll =>
    exact congrArg (fun b => b.database.versions.trail project) (r.backend_closeActors r.known)
  | closeActor | setFaults | setClock => rfl

theorem trail_run (hr : r.Sound) {steps : List Step} (hsteps : ∀ x ∈ steps, x.Plain)
    (project : Text) :
    (r.run steps).backend.database.versions.trail project =
      r.trailOf project (r.backend.database.versions.trail project) steps := by
  induction steps generalizing r with
  | nil => rfl
  | cons x steps ih =>
    rw [List.forall_mem_cons] at hsteps
    rw [trailOf, ← trail_step hr hsteps.1]
    exact ih (hr.step hsteps.1) hsteps.2

/-- What an accepted creation or replacement by `actor` reports and writes: the files before and
behind it are snapshots, and `d` is the change between them; the store is asked to append its record
if there is one, and a replacement reports whether that succeeded. -/
structure Reports (r : Registry) (project : Text) (op : Operation) (answer : Answer)
    (actor : Text) (message : Given) (files : FileSet) (d : SyncResult) : Prop where
  before : ∀ old, r.filesOf? project = some old → Snapshot.checkFiles old = .ok old
  behind : Snapshot.checkFiles files = .ok files
  change : SyncResult.between (r.filesOf? project) files = .ok d
  record : r.record? project op = some (r.nextRecord project actor message.text? d)
  appends : r.backend.appends r.setup = true ↔ r.setup.keepsVersions = true ∧
    ∃ reply, (r.backend.perform
      (.appendVersion (.ofChange r.backend.clock.now project actor d message.text?))).1 = .ok reply
  answer : ∀ files actor message name, op = .sync files actor message name →
    answer = .synced { d with recorded := r.backend.appends r.setup }

theorem exists_reports (hr : r.Sound) (hpu : project.isUtf8 = true) (hop : op.Plain)
    {answer : Answer} (hanswer : (r.perform project op).1 = .ok answer) {actor message : Given}
    {files : FileSet} (hversion : op.version? = some (actor, message, files)) :
    ∃ a d, actor = .text a ∧ r.Reports project op answer a message files d := by
  obtain ⟨-, -, ⟨e, he, -⟩ | ⟨n, a, found, hfinds, -, heffect⟩⟩ := perform_spec hr hpu hop
  · rw [he] at hanswer
    nomatch hanswer
  have hfiles := hfinds.filesOf?_eq hr hpu
  have hasked := (hfinds.memory_sound hr a (List.mem_of_getElem? hfinds.actor)).asked hr.backend
    r.setup project
  rw [hanswer] at heffect
  generalize (r.perform project op).2.backend.database.versions = t at heffect
  cases heffect with
  | unversioned _ _ hnone =>
    rw [hversion] at hnone
    nomatch hnone
  | deleted => nomatch hversion
  | versioned hversion' hlegal hplain hd hsync =>
    rw [hversion'] at hversion
    cases hversion
    refine ⟨_, _, rfl, ?_, FileSet.checkFiles_eq_ok_iff.mpr hlegal, hfiles ▸ hd.eq, ?_, ?_, hsync⟩
    · intro old hold
      rw [hfiles] at hold
      obtain ⟨record, hrecord, rfl⟩ := Option.map_eq_some_iff.mp hold
      exact FileSet.checkFiles_eq_ok_iff.mpr (hasked.record record hrecord).files
    · rw [Given.text?_ofText?]
      exact hfinds.record?_eq hr hpu hversion' hd
    · rw [Given.text?_ofText?, Backend.perform_ok_iff hr.backend.bearable hplain, Backend.appends,
        Bool.and_eq_true]
      rfl

/-- Behind any session, the records that the store lists for a project are exactly those of its
accepted creations and replacements since the last purge, without those that the store did not take;
and each accepted creation or replacement reports the change from the files before it. -/
theorem trail_exact {setup : ProjectSetup} {cache : Option (Cache Cached)} {clock : Clock}
    (hcache : ∀ c ∈ cache, 1 ≤ c.policy.capacity) {steps : List Step}
    (hsteps : ∀ x ∈ steps, x.Plain) :
    (∀ project, ((opened setup cache clock).run steps).backend.database.versions.trail project =
        (opened setup cache clock).trailOf project [] steps) ∧
      ∀ project op answer actor message files, project.isUtf8 = true → op.Plain →
        (((opened setup cache clock).run steps).perform project op).1 = .ok answer →
        op.version? = some (actor, message, files) →
        ∃ a d, actor = .text a ∧ ((opened setup cache clock).run steps).Reports project op answer a
          message files d := by
  have hsound := sound_opened setup clock hcache
  have hempty (project : Text) :
      (opened setup cache clock).backend.database.versions.trail project = [] :=
    VersionTable.trail_eq hsound.ascending project
  refine ⟨fun project => hempty project ▸ trail_run hsound hsteps project, ?_⟩
  intro project op answer actor message files hpu hop hanswer hversion
  exact exists_reports (hsound.run hsteps) hpu hop hanswer hversion

/-- A session in which the store misses one of three replacements, and the files are edited before
the last one, which a new actor makes. -/
def outageSession : List Step :=
  [.perform "p" (.sync (.ofList [("a.js", "1")]) (.text "ada") (.text "first") .nothing),
    .setFaults fun m => if m = .appendVersion then some .unavailable else none,
    .perform "p" (.sync (.ofList [("b.js", "2")]) (.text "ada") .nothing .nothing),
    .setFaults .none,
    .perform "p" (.write [⟨"b.js", .update, some "3"⟩]),
    .release "p",
    .perform "p" (.sync (.ofList [("b.js", "2")]) (.text "bob") .nothing .nothing)]

theorem trail_exact_outageSession :
    (((opened {} none { now := { seconds := 0 } }).run
        outageSession).backend.database.versions.trail "p").map
      (fun v => (v.actorId, v.changedFiles, v.removedFiles)) =
      ([("ada", ["a.js"], []), ("bob", ["b.js"], [])] :
        List (Text × List Text × List Text)) := by
  have hplain : ∀ x ∈ outageSession, x.Plain := by
    have hada : Given.Written (.text "ada") := ⟨"ada", by decide, rfl⟩
    have hbob : Given.Written (.text "bob") := ⟨"bob", by decide, rfl⟩
    have hfirst : Given.WrittenOrNothing (.text "first") := ⟨some "first", by decide, rfl⟩
    have hnothing : Given.WrittenOrNothing .nothing := ⟨none, by decide, rfl⟩
    simp only [outageSession, List.forall_mem_cons, List.not_mem_nil, false_imp_iff, implies_true,
      and_true, Step.Plain, Operation.Plain, hada, hbob, hfirst, hnothing, true_and]
    refine ⟨by decide, ?_, by decide, ?_, by decide, by decide⟩
    · intro m
      cases m <;> decide
    · intro m
      nofun
  have hcache : ∀ c ∈ (none : Option (Cache Cached)), 1 ≤ c.policy.capacity :=
    fun c h => nomatch h
  rw [(trail_exact hcache hplain).1]
  decide +kernel

end SitePreview.Registry
