import SitePreview.Proofs.Project.Course

/-! Dates and numbers of rows have no part in what operations do: the course of an operation is the
same, dates and numbers apart, whenever it is taken and whatever dates the record bears. -/

namespace SitePreview

def Timestamp.epoch : Timestamp := { seconds := 0 }

/-- Checks that agree but for what is left out of their values. -/
theorem Checked.cases_of_map_eq {α β : Type} {f : α → β} {c c' : Checked α}
    (h : c.map f = c'.map f) :
    (∃ a a', c = .ok a ∧ c' = .ok a' ∧ f a = f a') ∨ ∃ is, c = .bad is ∧ c' = .bad is := by
  cases c with
  | ok a =>
    cases c' with
    | ok a' => exact .inl ⟨a, a', rfl, rfl, Checked.ok.inj h⟩
    | bad is => cases h
  | bad is =>
    cases c' with
    | ok a => cases h
    | bad is' => exact .inr ⟨is, rfl, by rw [Checked.bad.inj h]⟩

namespace ProjectRecord

/-- The record with its times set to a fixed one. -/
def undated (r : ProjectRecord) : ProjectRecord :=
  { r with createdAt := .epoch, updatedAt := .epoch }

end ProjectRecord

def ProjectStatus.undated (s : ProjectStatus) : ProjectStatus :=
  { s with createdAt := .epoch, updatedAt := .epoch }

/-- The record without its number, and with its time set to a fixed one. -/
def VersionRecord.undated (v : VersionRecord) : VersionRecord :=
  { v with id := none, createdAt := .epoch }

def History.undated (h : History) : History :=
  { h with versions := h.versions.map VersionRecord.undated }

/-- The answer without numbers of rows, and with all times set to a fixed one. -/
def Answer.undated : Answer → Answer
  | status s => status s.undated
  | history h => history h.undated
  | answer => answer

def Memory.undated (m : Memory) : Memory := { m with record := m.record.map ProjectRecord.undated }

namespace Course

def undated : Course → Course
  | answer a => answer a.undated
  | refuse v e => refuse (v.map VersionRecord.undated) e
  | commit v r kind report =>
    commit (v.map VersionRecord.undated) r.undated kind fun recorded => (report recorded).undated

variable {plan plan' : Except ProjectError (SyncResult × Option VersionRecord)}
  {made made' : SyncResult → Checked (ProjectRecord × NameKind)}
  {answer : ProjectRecord → SyncResult → Answer}

theorem undated_ofPlan
    (hplan : (plan.map fun x => (x.1, x.2.map VersionRecord.undated)) =
      plan'.map fun x => (x.1, x.2.map VersionRecord.undated))
    (hmade : ∀ d, ((made d).map fun x => (x.1.undated, x.2)) =
      (made' d).map fun x => (x.1.undated, x.2))
    (hanswer : ∀ r r' d, r.undated = r'.undated → (answer r d).undated = (answer r' d).undated) :
    (ofPlan plan made answer).undated = (ofPlan plan' made' answer).undated := by
  rcases plan with e | ⟨d, v⟩ <;> rcases plan' with e' | ⟨d', v'⟩
  · cases hplan
    rfl
  · cases hplan
  · cases hplan
  obtain ⟨rfl, hv⟩ := Prod.mk.inj (Except.ok.inj hplan)
  rw [ofPlan, ofPlan]
  dsimp only at hv ⊢
  rcases Checked.cases_of_map_eq (hmade d) with ⟨⟨r, kind⟩, ⟨r', kind'⟩, hr, hr', h⟩ | ⟨is, h, h'⟩
  · obtain ⟨hundated, hkind⟩ := Prod.mk.inj h
    dsimp only at hundated hkind
    subst hkind
    rw [hr, hr']
    simp only [undated, hv, hundated, hanswer r r' _ hundated]
  · rw [h, h']
    simp only [undated, hv]

theorem undated_ofWritten {α : Type} (written : Except Text.EncodeError α) {f f' : α → Course}
    (h : ∀ a, (f a).undated = (f' a).undated) :
    (ofWritten written f).undated = (ofWritten written f').undated := by
  cases written with
  | error e => rfl
  | ok a => exact h a

end Course

namespace VersionRecord

theorem undated_ofResult (now now' : Timestamp) (project : Text) (actor : Given) (d : SyncResult)
    (message : Given) :
    (ofResult now project actor d message).map undated =
      (ofResult now' project actor d message).map undated := by
  rw [ofResult, ofResult]
  generalize (Checked.filledText (.string project)).inside (.name "project_id") = p
  generalize (Checked.filledGiven actor).inside (.name "actor_id") = a
  generalize (Checked.given? message).inside (.name "message") = m
  cases p <;> cases a <;> cases m <;> rfl

end VersionRecord

namespace ProjectRecord

theorem undated_new (now now' : Timestamp) (project : Text) (owner name template : Given)
    (files : FileSet) (hash : Text) :
    (new now project owner name template files hash).map undated =
      (new now' project owner name template files hash).map undated := by
  rw [new, new]
  generalize (Checked.filledText (.string project)).inside (.name "project_id") = p
  generalize (Checked.filledGiven owner).inside (.name "owner_id") = o
  generalize (Checked.given name).inside (.name "name") = n
  generalize (Checked.given? template).inside (.name "template") = t
  cases p <;> cases o <;> cases n <;> cases t <;> rfl

end ProjectRecord

theorem Ledger.undated_plan (s : ProjectSetup) (project : Text) (actor : Given)
    (old : Option FileSet) (new : FileSet) (message : Given) (now now' : Timestamp) :
    ((plan s project actor old new message now).map fun x =>
        (x.1, x.2.map VersionRecord.undated)) =
      (plan s project actor old new message now').map fun x =>
        (x.1, x.2.map VersionRecord.undated) := by
  rw [plan, plan]
  cases SyncResult.between old new with
  | error e => rfl
  | ok d =>
    dsimp only
    cases s.keepsVersions with
    | false => rfl
    | true =>
      rcases Checked.cases_of_map_eq
        (VersionRecord.undated_ofResult now now' project actor d message) with
        ⟨v, v', h, h', hv⟩ | ⟨is, h, h'⟩
      · rw [h, h']
        simp only [Bool.not_true, Bool.false_eq_true, if_false, Except.map, Option.map_some, hv]
      · rw [h, h']

namespace Operation

variable {s : ProjectSetup} {project : Text} {m m' : Memory} {op : Operation}

theorem undated_newRecord (now now' : Timestamp) (project : Text) (owner name template : Given)
    (files : FileSet) (d : SyncResult) :
    ((newRecord now project owner name template files d).map fun x => (x.1.undated, x.2)) =
      (newRecord now' project owner name template files d).map fun x => (x.1.undated, x.2) := by
  rw [newRecord, newRecord]
  rcases Checked.cases_of_map_eq
    (ProjectRecord.undated_new now now' project owner name template files d.hash) with
    ⟨r, r', h, h', hr⟩ | ⟨is, h, h'⟩
  · rw [h, h']
    simp only [Checked.map, hr]
  · rw [h, h']

theorem undated_nextRecord (now now' : Timestamp) (project : Text) (m : Memory)
    (actor name : Given) (files : FileSet) (d : SyncResult) :
    ((nextRecord now project m actor name files d).map fun x => (x.1.undated, x.2)) =
      (nextRecord now' project m.undated actor name files d).map fun x => (x.1.undated, x.2) := by
  obtain ⟨record, kind, loaded⟩ := m
  cases record with
  | none => exact undated_newRecord ..
  | some r => rfl

theorem undated_ofRecord (project : Text) (m : Memory) {f f' : ProjectRecord → Course}
    (h : ∀ r, (f r).undated = (f' r.undated).undated) :
    (ofRecord project m f).undated = (ofRecord project m.undated f').undated := by
  obtain ⟨record, kind, loaded⟩ := m
  cases record with
  | none => rfl
  | some r => exact h r

theorem undated_status {r r' : ProjectRecord} (h : r.undated = r'.undated) :
    (Answer.status r.status).undated = (Answer.status r'.status).undated :=
  congrArg (fun r : ProjectRecord => Answer.status r.status) h

/-- The time, and the dates of the record, show in the dates alone. -/
theorem undated_course? (s : ProjectSetup) (project : Text) (now : Timestamp) (m : Memory)
    (op : Operation) :
    (op.course? s project now m).map Course.undated =
      (op.course? s project .epoch m.undated).map Course.undated := by
  have hfiles : (m.undated.record.map ProjectRecord.files) = m.record.map ProjectRecord.files := by
    rw [Memory.undated, Option.map_map]
    rfl
  cases op with
  | create owner name template files =>
    rw [course?, course?]
    rcases start template files with ⟨created, template, message⟩
    refine congrArg some ?_
    obtain ⟨record, kind, loaded⟩ := m
    cases record with
    | some r => rfl
    | none =>
      exact Course.undated_ofPlan (Ledger.undated_plan ..)
        (fun d => undated_newRecord ..) fun r r' d h => undated_status h
  | sync files actor message name =>
    refine congrArg some ?_
    rw [syncCourse, syncCourse, hfiles]
    exact Course.undated_ofPlan (Ledger.undated_plan ..) (fun d => undated_nextRecord ..)
      fun r r' d h => rfl
  | write edits =>
    refine congrArg some (undated_ofRecord project m fun r => ?_)
    rw [show r.undated.files = r.files from rfl]
    rcases FileEdit.applyAll r.files edits with ⟨results, _ | files⟩
    · rfl
    · exact Course.undated_ofWritten _ fun hash => rfl
  | content path => exact congrArg some (undated_ofRecord project m fun r => rfl)
  | listFiles => exact congrArg some (undated_ofRecord project m fun r => rfl)
  | snapshot => exact congrArg some (undated_ofRecord project m fun r => rfl)
  | status =>
    refine congrArg some (undated_ofRecord project m fun r => ?_)
    rw [show m.undated.nameKind = m.nameKind from rfl]
    split <;> rfl
  | render mode =>
    refine congrArg some (undated_ofRecord project m fun r => ?_)
    rw [show m.undated.nameKind = m.nameKind from rfl, show r.undated.files = r.files from rfl]
    split <;> rfl
  | summary | history | delete => rfl

end Operation

end SitePreview
