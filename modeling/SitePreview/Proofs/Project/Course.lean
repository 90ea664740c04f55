import SitePreview.Proofs.Project.Arguments
import SitePreview.Proofs.Project.Runs

/-! The course of an operation. Once the record of its project is known, an operation on it decides
before it does anything: it answers, it is refused, or it commits, which is to offer a version to
the ledger and to accept a record. A page of history, a summary and a deletion take ways of their
own. -/

namespace SitePreview

/-- What an operation comes to: an answer, an error behind a version that was offered if there was
one, or a record that is accepted behind such a version. The answer of the last may show whether the
version was recorded. -/
inductive Course
  | answer (a : Answer)
  | refuse (v : Option VersionRecord) (e : ProjectError)
  | commit (v : Option VersionRecord) (r : ProjectRecord) (kind : NameKind)
      (report : Bool → Answer)

theorem SyncResult.between_eq_ok {old : Option FileSet} {new : FileSet} {d : SyncResult} :
    between old new = .ok d ↔
      new.hash = .ok d.hash ∧ d.changedPaths = (ChangeSet.between old new).changed ∧
        d.removedPaths = (ChangeSet.between old new).removed ∧ d.recorded = true := by
  obtain ⟨hash, changed, removed, recorded⟩ := d
  rw [between]
  cases new.hash with
  | error e =>
    constructor
    · intro h
      cases h
    · rintro ⟨h, -⟩
      cases h
  | ok x =>
    show Except.ok _ = _ ↔ _
    simp only [Except.ok.injEq, SyncResult.mk.injEq, eq_comm]

namespace Ledger

open Routine

variable {s : ProjectSetup} {project : Text} {actor message : Given} {old : Option FileSet}
  {new : FileSet} {m : Memory} {b : Backend}

/-- The outcome of replacing `old` by `new`, and the record to be written of it, if records are
kept. -/
def plan (s : ProjectSetup) (project : Text) (actor : Given) (old : Option FileSet) (new : FileSet)
    (message : Given) (now : Timestamp) : Except ProjectError (SyncResult × Option VersionRecord) :=
  match SyncResult.between old new with
  | .error e => .error (.notUtf8 e)
  | .ok d =>
    if !s.keepsVersions then .ok (d, none)
    else
      match VersionRecord.ofResult now project actor d message with
      | .ok v => .ok (d, some v)
      | .bad is => .error (.record .version is)

/-- Offers a record to the store, and tells whether it was taken. -/
def offer : Option VersionRecord → Routine Bool
  | none => pure false
  | some v => do
    match ← ask (.appendVersion v) with
    | .ok _ => return true
    | .error e => if e.isOutage then return false else fail (.store e)

/-- To append is to plan, and to offer what was planned. -/
theorem run_append_bind {β : Type} (f : SyncResult → Routine β) :
    (append s project actor old new message >>= f).run m b =
      match plan s project actor old new message b.clock.now with
      | .error e => (.error e, m, b)
      | .ok (d, v) =>
        (offer v >>= fun recorded => f { d with recorded := recorded }).run m b := by
  rw [run_bind, append, plan]
  cases hd : SyncResult.between old new with
  | error e => rfl
  | ok d =>
    have hrecorded : { d with recorded := true } = d := by
      rw [← (SyncResult.between_eq_ok.mp hd).2.2.2]
    rw [run_written_bind]
    cases hs : s.keepsVersions with
    | false => rfl
    | true =>
      simp only [Bool.not_true, Bool.false_eq_true, if_false, run_clock_bind]
      cases hv : VersionRecord.ofResult b.clock.now project actor d message with
      | bad is => rfl
      | ok v =>
        dsimp only
        rw [run_checked_bind, run_ask_bind, offer, run_bind (_ >>= _), run_ask_bind]
        cases (b.perform (.appendVersion v)).1 with
        | ok reply =>
          dsimp only
          rw [run_pure, run_pure]
          dsimp only
          rw [hrecorded]
        | error e =>
          dsimp only
          cases e.isOutage <;> rfl

end Ledger

/-- The end of an offer to the ledger, and the shared state then. -/
def Backend.offer (b : Backend) : Option VersionRecord → Except ProjectError Bool × Backend
  | none => (.ok false, b)
  | some v =>
    match b.perform (.appendVersion v) with
    | (.ok _, b) => (.ok true, b)
    | (.error e, b) => (if e.isOutage then .ok false else .error (.store e), b)

namespace Backend

variable {b : Backend}

theorem perform_snd (b : Backend) (c : StoreCall) :
    (b.perform c).2 = { b with database := (b.perform c).2.database } := by
  rw [perform]
  split <;> rfl

theorem offer_snd (b : Backend) (v : Option VersionRecord) :
    (b.offer v).2 = { b with database := (b.offer v).2.database } := by
  cases v with
  | none => rfl
  | some v =>
    rw [offer]
    have h := b.perform_snd (.appendVersion v)
    split
    · next hp => rw [hp] at h; exact h
    · next hp => rw [hp] at h; exact h

end Backend

open Routine in
theorem Ledger.run_offer (v : Option VersionRecord) (m : Memory) (b : Backend) :
    (offer v).run m b = ((b.offer v).1, m, (b.offer v).2) := by
  cases v with
  | none => rfl
  | some v =>
    rw [offer, run_ask_bind, Backend.offer]
    rcases b.perform (.appendVersion v) with ⟨e | reply, b'⟩
    · dsimp only
      cases e.isOutage <;> rfl
    · rfl

namespace Operation

/-- The record of a project that is not there yet. -/
def newRecord (now : Timestamp) (project : Text) (owner name template : Given) (files : FileSet)
    (d : SyncResult) : Checked (ProjectRecord × NameKind) :=
  match ProjectRecord.new now project owner name template files d.hash with
  | .ok r => .ok (r, .text)
  | .bad is => .bad is

/-- The record of a project whose files were replaced. -/
def nextRecord (now : Timestamp) (project : Text) (m : Memory) (actor name : Given)
    (files : FileSet) (d : SyncResult) : Checked (ProjectRecord × NameKind) :=
  match m.record with
  | none =>
    newRecord now project actor (if name.isNothing then .text project else name) .nothing files d
  | some r =>
    let (name, kind) := (newName? r.name name).getD (r.name, m.nameKind)
    .ok ({ r with name := name, files := files, filesHash := d.hash, updatedAt := now }, kind)

end Operation

namespace Course

/-- The course of a planned change: it commits the record that is made of it. -/
def ofPlan (plan : Except ProjectError (SyncResult × Option VersionRecord))
    (made : SyncResult → Checked (ProjectRecord × NameKind))
    (answer : ProjectRecord → SyncResult → Answer) : Course :=
  match plan with
  | .error e => .refuse none e
  | .ok (d, v) =>
    match made d with
    | .bad is => .refuse v (.record .project is)
    | .ok (r, kind) => .commit v r kind fun recorded => answer r { d with recorded := recorded }

def ofWritten {α : Type} (written : Except Text.EncodeError α) (f : α → Course) : Course :=
  match written with
  | .error e => .refuse none (.notUtf8 e)
  | .ok a => f a

open Routine in
/-- What an actor does in this course. -/
def routine (s : ProjectSetup) (project : Text) : Course → Routine Answer
  | .answer a => pure a
  | .refuse v e => do
    discard (Ledger.offer v)
    fail e
  | .commit v r kind report => do
    let recorded ← Ledger.offer v
    Operation.accept s project r kind
    return report recorded

variable {s : ProjectSetup} {project : Text} {v : Option VersionRecord} {m : Memory} {b : Backend}

open Routine in
theorem run_refuse (e : ProjectError) :
    ((refuse v e).routine s project).run m b =
      match (b.offer v).1 with
      | .ok _ => (.error e, m, (b.offer v).2)
      | .error e => (.error e, m, (b.offer v).2) := by
  have hoffer := Ledger.run_offer v m b
  cases ho : (b.offer v).1 with
  | ok recorded => exact run_bind_ok _ (run_discard (hoffer.trans (by rw [ho])))
  | error e => exact run_bind_error _ (run_bind_error _ (hoffer.trans (by rw [ho])))

open Routine in
theorem run_commit (r : ProjectRecord) (kind : NameKind) (report : Bool → Answer) :
    ((commit v r kind report).routine s project).run m b =
      match (b.offer v).1 with
      | .ok recorded => (Operation.accept s project r kind >>= fun _ =>
          pure (report recorded)).run m (b.offer v).2
      | .error e => (.error e, m, (b.offer v).2) := by
  have hoffer := Ledger.run_offer v m b
  cases ho : (b.offer v).1 with
  | ok recorded => exact run_bind_ok _ (hoffer.trans (by rw [ho]))
  | error e => exact run_bind_error _ (hoffer.trans (by rw [ho]))

end Course

namespace Operation

/-- The course of an operation on a project with a record, which has to be there. -/
def ofRecord (project : Text) (m : Memory) (f : ProjectRecord → Course) : Course :=
  match m.record with
  | none => .refuse none (.notFound project)
  | some r => f r

def createCourse (s : ProjectSetup) (project : Text) (now : Timestamp) (m : Memory)
    (owner name template : Given) (files : FileSet) (message : Text) : Course :=
  match m.record with
  | some _ => .refuse none (.alreadyThere project)
  | none =>
    .ofPlan (Ledger.plan s project owner none files (.text message) now)
      (newRecord now project owner name template files) fun r _ => .status r.status

def syncCourse (s : ProjectSetup) (project : Text) (now : Timestamp) (m : Memory) (files : FileSet)
    (actor message name : Given) : Course :=
  .ofPlan (Ledger.plan s project actor (m.record.map ProjectRecord.files) files message now)
    (nextRecord now project m actor name files) fun _ d => .synced d

/-- The course of an operation whose actor remembers `m` once it has asked for the record. -/
def course? (s : ProjectSetup) (project : Text) (now : Timestamp) (m : Memory) :
    Operation → Option Course
  | create owner name template files =>
    match start template files with
    | (files, template, message) =>
      some (createCourse s project now m owner name template files message)
  | sync files actor message name =>
    some (syncCourse s project now m files actor message name)
  | write edits => some <| ofRecord project m fun r =>
    match FileEdit.applyAll r.files edits with
    | (results, none) => .answer (.edited results)
    | (results, some files) => .ofWritten files.hash fun hash =>
      .commit none { r with files := files, filesHash := hash, updatedAt := now } m.nameKind
        fun _ => .edited results
  | content path => some <| ofRecord project m fun r => .answer (.content (r.files.get? path))
  | listFiles => some <| ofRecord project m fun r =>
    .ofWritten (sizes r.files) fun sizes => .answer (.listing sizes)
  | snapshot => some <| ofRecord project m fun r => .answer (.files r.files)
  | status => some <| ofRecord project m fun r =>
    if m.nameKind = .text then .answer (.status r.status)
    else .refuse none (.record .status [⟨[.name "name"], .notText⟩])
  | render mode => some <| ofRecord project m fun r =>
    if m.nameKind = .text ∨ mode.getD r.files.renderMode = .passthrough then
      .answer (.document (Document.render r.files mode (previewOptions s r)))
    else .refuse none .titleNotText
  | summary | history _ | delete => none

open Routine

variable {s : ProjectSetup} {project : Text} {m m' : Memory} {b : Backend} {op : Operation}

/-- A change goes its planned course if what follows its version makes and accepts the record. -/
theorem run_append_ofPlan {actor message : Given} {old : Option FileSet} {files : FileSet}
    {f : SyncResult → Routine Answer} {made : SyncResult → Checked (ProjectRecord × NameKind)}
    {answer : ProjectRecord → SyncResult → Answer}
    (hf : ∀ d recorded b', b'.clock = b.clock → (f { d with recorded := recorded }).run m b' =
      match made d with
      | .bad is => (.error (.record .project is), m, b')
      | .ok (r, kind) => (accept s project r kind >>= fun _ =>
          pure (answer r { d with recorded := recorded })).run m b') :
    (Ledger.append s project actor old files message >>= f).run m b =
      ((Course.ofPlan (Ledger.plan s project actor old files message b.clock.now) made
        answer).routine s project).run m b := by
  rw [Ledger.run_append_bind]
  cases Ledger.plan s project actor old files message b.clock.now with
  | error e => rfl
  | ok plan =>
    obtain ⟨d, v⟩ := plan
    have hoffer := Ledger.run_offer v m b
    have hclock : (b.offer v).2.clock = b.clock := by rw [Backend.offer_snd]
    dsimp only [Course.ofPlan]
    cases ho : (b.offer v).1 with
    | error e =>
      rw [ho] at hoffer
      rw [run_bind_error _ hoffer]
      cases made d <;> simp only [Course.run_refuse, Course.run_commit, ho]
    | ok recorded =>
      rw [ho] at hoffer
      rw [run_bind_ok _ hoffer, hf d recorded _ hclock]
      cases made d <;> simp only [Course.run_refuse, Course.run_commit, ho]

theorem run_createCourse (hload : (ensureLoaded s project).run m b = (.ok (), m', b))
    (owner name template : Given) (files : FileSet) (message : Text) :
    (createFrom s project owner name template files message).run m b =
      ((createCourse s project b.clock.now m' owner name template files message).routine s
        project).run m' b := by
  rw [createFrom, run_bind_ok _ hload, run_memory_bind, createCourse]
  cases m'.record with
  | some r => rfl
  | none =>
    refine run_append_ofPlan fun d recorded b' hb => ?_
    rw [run_clock_bind, hb, newRecord]
    cases ProjectRecord.new b.clock.now project owner name template files d.hash <;> rfl

theorem run_syncCourse (hload : (ensureLoaded s project).run m b = (.ok (), m', b))
    (files : FileSet) (actor message name : Given) :
    (syncTo s project files actor message name).run m b =
      ((syncCourse s project b.clock.now m' files actor message name).routine s
        project).run m' b := by
  rw [syncTo, run_bind_ok _ hload, run_memory_bind]
  refine run_append_ofPlan fun d recorded b' hb => ?_
  rw [run_clock_bind, hb, nextRecord]
  cases m'.record with
  | some r => rfl
  | none =>
    dsimp only
    rw [newRecord]
    cases ProjectRecord.new b.clock.now project actor _ .nothing files d.hash <;> rfl

theorem run_ofRecord (hload : (ensureLoaded s project).run m b = (.ok (), m', b))
    {f : ProjectRecord → Routine Answer} {g : ProjectRecord → Course}
    (h : ∀ r, (f r).run m' b = ((g r).routine s project).run m' b) :
    (current s project >>= f).run m b = ((ofRecord project m' g).routine s project).run m' b := by
  rw [run_bind, run_current_of_load hload, ofRecord]
  cases m'.record with
  | none => rfl
  | some r => exact h r

/-- Once it has asked for the record, an actor takes the course of the operation. -/
theorem run_course (hload : (ensureLoaded s project).run m b = (.ok (), m', b)) {x : Course}
    (hx : op.course? s project b.clock.now m' = some x) :
    (op.routine s project).run m b = (x.routine s project).run m' b := by
  cases op with
  | create owner name template files =>
    revert hx
    rw [routine, course?]
    rcases start template files with ⟨created, template, message⟩
    rintro ⟨⟩
    exact run_createCourse hload ..
  | sync files actor message name =>
    cases hx
    exact run_syncCourse hload ..
  | write edits =>
    cases hx
    refine run_ofRecord hload fun r => ?_
    rcases FileEdit.applyAll r.files edits with ⟨results, _ | files⟩
    · rfl
    · dsimp only
      cases hh : files.hash <;> rfl
  | content path =>
    cases hx
    exact run_ofRecord hload fun r => rfl
  | listFiles =>
    cases hx
    refine run_ofRecord hload fun r => ?_
    cases sizes r.files <;> rfl
  | snapshot =>
    cases hx
    exact run_ofRecord hload fun r => rfl
  | status =>
    cases hx
    refine run_ofRecord hload fun r => ?_
    rw [run_memory_bind]
    split <;> rfl
  | render mode =>
    cases hx
    refine run_ofRecord hload fun r => ?_
    rw [run_memory_bind]
    split <;> rfl
  | summary | history | delete => cases hx

theorem course?_eq_none {now : Timestamp} (h : op.course? s project now m = none) :
    op = .summary ∨ op = .delete ∨ ∃ limit, op = .history limit := by
  cases op with
  | create => cases h
  | summary => exact .inl rfl
  | delete => exact .inr (.inl rfl)
  | history limit => exact .inr (.inr ⟨limit, rfl⟩)
  | sync | write | content | listFiles | snapshot | status | render => cases h

/-- The operation asks for the record before it does anything else. -/
def asksFirst : Operation → Bool
  | summary | history _ => false
  | _ => true

theorem asksFirst_of_course? {now : Timestamp} {x : Course}
    (h : op.course? s project now m = some x) : op.asksFirst = true := by
  cases op with
  | summary | history => cases h
  | create | sync | write | content | listFiles | snapshot | status | render | delete => rfl

theorem run_of_load_error {e : ProjectError} {b' : Backend}
    (hload : (ensureLoaded s project).run m b = (.error e, m', b'))
    (hop : op.asksFirst = true) :
    (op.routine s project).run m b = (.error e, m', b') := by
  have hcurrent {f : ProjectRecord → Routine Answer} :
      (current s project >>= f).run m b = (.error e, m', b') :=
    run_bind_error _ (run_bind_error _ hload)
  cases op with
  | create owner name template files =>
    rw [routine]
    rcases start template files with ⟨created, template, message⟩
    exact run_bind_error _ hload
  | sync | delete => exact run_bind_error _ hload
  | write | content | snapshot | status | render | listFiles => exact hcurrent
  | summary | history => cases hop

end Operation

end SitePreview
