import SitePreview.Proofs.Project.Operations
import SitePreview.Proofs.Trail.AppendOrder

/-! The effect of an operation on the version records: an operation that fails leaves them as they
were, a deletion removes those of its project, a creation or a replacement adds one, and all other
operations leave them as they were. -/

namespace SitePreview

namespace Given

/-- The text, if one is given. -/
def text? : Given → Option Text
  | .text t => some t
  | _ => none

@[simp] theorem text?_ofText? (t : Option Text) : (ofText? t).text? = t := by
  cases t <;> rfl

end Given

namespace Operation

variable {s : ProjectSetup} {project : Text} {m : Memory} {b : Backend} {op : Operation}

/-- Who asks for a version, its message and its files, for operations that make one. -/
def version? : Operation → Option (Given × Given × FileSet)
  | create owner _ template files =>
    let (files, _, message) := start template files
    some (owner, .text message, files)
  | sync files actor message _ => some (actor, message, files)
  | _ => none

/-- How an operation can end, and the version records behind it. -/
inductive Effect (s : ProjectSetup) (project : Text) (m : Memory) (b : Backend) :
    Operation → Except ProjectError Answer → VersionTable → Prop
  | refused (op : Operation) (e : ProjectError) :
    Effect s project m b op (.error e) b.database.versions
  | unversioned {op : Operation} (answer : Answer) (hop : op ≠ .delete)
      (hversion : op.version? = none) :
    Effect s project m b op (.ok answer) b.database.versions
  | deleted (existed : Bool) :
    Effect s project m b .delete (.ok (.deleted existed))
      (if b.purges s then b.database.versions.erase project else b.database.versions)
  | versioned {op : Operation} {answer : Answer} {a : Text} {message : Option Text}
      {files : FileSet} {d : SyncResult}
      (hversion : op.version? = some (.text a, .ofText? message, files)) (hfiles : files.Legal)
      (hplain : (StoreCall.appendVersion (.ofChange b.clock.now project a d message)).Plain)
      (hd : d.Outcome ((m.asked s project b).record.map ProjectRecord.files) files)
      (hanswer : ∀ files actor message name, op = .sync files actor message name →
        answer = .synced { d with recorded := b.appends s }) :
    Effect s project m b op (.ok answer)
      (if b.appends s then
        b.database.versions.append (.ofChange b.clock.now project a d message)
      else b.database.versions)

end Operation

namespace Backend

variable {b : Backend} {s : ProjectSetup}

@[simp] theorem invalidated_versions (project : Text) :
    (b.invalidated project).database.versions = b.database.versions := rfl

@[simp] theorem refreshed_versions (project : Text) (files : FileSet) :
    (b.refreshed project files).database.versions = b.database.versions := rfl

@[simp] theorem saved_versions (r : ProjectRecord) :
    (b.saved s r).database.versions = b.database.versions := by
  rw [saved]
  split <;> rfl

@[simp] theorem forgotten_versions (project : Text) :
    (b.forgotten s project).database.versions = b.database.versions := by
  rw [forgotten]
  split <;> rfl

@[simp] theorem forgotten_purges (project : Text) :
    (b.forgotten s project).purges s = b.purges s := by
  rw [forgotten]
  split <;> rfl

theorem offered_versions (v : Option VersionRecord) :
    (b.offered v).database.versions =
      match v with
      | none => b.database.versions
      | some v =>
        if b.reaches .appendVersion then b.database.versions.append v else b.database.versions := by
  cases v with
  | none => rfl
  | some v =>
    rw [offered]
    split <;> rfl

theorem purged_versions (project : Text) :
    (b.purged s project).database.versions =
      if b.purges s then b.database.versions.erase project else b.database.versions := by
  rw [purged]
  split <;> rfl

end Backend

namespace Operation

variable {s : ProjectSetup} {project : Text} {m : Memory} {b : Backend} {op : Operation}

/-- The actor and the store are sound behind the operation, which ended in one of the ways there
are. -/
def Ends (s : ProjectSetup) (project : Text) (m : Memory) (b : Backend) (op : Operation) : Prop :=
  ∃ o m' b', (op.routine s project).run m b = (o, m', b') ∧ m'.Sound ∧ b'.Sound ∧
    Effect s project m b op o b'.database.versions

/-- An operation that is answered at once makes no version. -/
theorem version?_of_answer {now : Timestamp} {a : Answer}
    (h : op.course? s project now m = some (.answer a)) : op.version? = none ∧ op ≠ .delete := by
  have notPlanned {plan made answer} : Course.ofPlan plan made answer ≠ .answer a := by
    unfold Course.ofPlan
    split
    · simp
    · split <;> simp
  cases op with
  | create owner name template files =>
    rcases hstart : start template files with ⟨created, template', message⟩
    rw [course?, hstart] at h
    have h := Option.some.inj h
    rw [createCourse] at h
    split at h
    · cases h
    · exact absurd h notPlanned
  | sync => exact absurd (Option.some.inj h) notPlanned
  | write | content | listFiles | snapshot | status | render => exact ⟨rfl, by simp⟩
  | summary | history | delete => cases h

/-- The planned version of a change is offered whenever records are kept. -/
theorem offered_of_plan {a : Text} {t : Option Text} {old : Option FileSet} {files : FileSet}
    {d : SyncResult} {v : Option VersionRecord}
    (h : Ledger.plan s project (.text a) old files (.ofText? t) b.clock.now = .ok (d, v)) :
    b.takes v = b.appends s ∧
      (b.offered v).database.versions =
        if b.appends s then b.database.versions.append (.ofChange b.clock.now project a d t)
        else b.database.versions := by
  obtain ⟨-, hkeeps, hversion⟩ := Ledger.plan_eq_ok h
  rw [Backend.takes, Backend.appends, ← hkeeps, Backend.offered_versions]
  cases v with
  | none => exact ⟨rfl, rfl⟩
  | some w =>
    obtain ⟨-, a', t', ha, ht, -, rfl⟩ := VersionRecord.ofResult_eq_ok.mp (hversion w rfl)
    cases ha
    rw [← Given.text?_ofText? t, ht, Given.text?_ofText?]
    exact ⟨rfl, rfl⟩

/-- What an operation commits adds the version of its change. -/
theorem Commits.effect {v : Option VersionRecord} {r : ProjectRecord} {kind : NameKind}
    {report : Bool → Answer} (hpu : project.isUtf8 = true)
    (h : Commits s project b.clock.now (m.asked s project b) op v r kind report)
    (hcheck : op.check = .ok ()) (hop : op.Plain) (hm : (m.asked s project b).Sound) :
    Effect s project m b op (.ok (report (b.takes v))) (b.offered v).database.versions := by
  cases h with
  | create hr hstart hplan hnew =>
    have hlegal := legal_of_check hcheck (by rw [newFiles?, hstart])
    obtain ⟨⟨a, hau, rfl⟩, -, htemplate⟩ := hop
    obtain ⟨_, _, _, hstart', -, hmessage⟩ := start_written htemplate _
    rw [hstart'] at hstart
    cases hstart
    have hd := Ledger.outcome_of_plan hplan (by simp) hlegal
    obtain ⟨-, hversions⟩ := offered_of_plan (t := some _) hplan
    rw [hversions]
    refine .versioned (by rw [version?, hstart']; rfl) hlegal
      (VersionRecord.plain_appendVersion hpu hau (by rintro _ ⟨⟩; exact hmessage) hd.storable)
      (by rw [hr]; exact hd) (by simp)
  | found hr hplan hnew =>
    have hlegal := legal_of_check hcheck rfl
    obtain ⟨⟨a, hau, rfl⟩, ⟨t, ht, rfl⟩, -⟩ := hop
    have hd := Ledger.outcome_of_plan hplan (by simp) hlegal
    obtain ⟨htakes, hversions⟩ := offered_of_plan hplan
    rw [hversions, htakes]
    exact .versioned rfl hlegal (VersionRecord.plain_appendVersion hpu hau ht hd.storable)
      (by rw [hr]; exact hd) (fun _ _ _ _ _ => rfl)
  | replace hr hplan hname =>
    have hlegal := legal_of_check hcheck rfl
    obtain ⟨⟨a, hau, rfl⟩, ⟨t, ht, rfl⟩, -⟩ := hop
    have hd := Ledger.outcome_of_plan hplan (by rintro _ ⟨⟩; exact (hm.record _ hr).files) hlegal
    obtain ⟨htakes, hversions⟩ := offered_of_plan hplan
    rw [hversions, htakes]
    exact .versioned rfl hlegal (VersionRecord.plain_appendVersion hpu hau ht hd.storable)
      (by rw [hr]; exact hd) (fun _ _ _ _ _ => rfl)
  | edit => exact .unversioned _ (by simp) rfl

theorem ends_summary (hb : b.Sound) (hm : m.Sound) (hpu : project.isUtf8 = true) :
    Ends s project m b .summary := by
  have hasked := hm.asked hb s project
  have hlooked := hb.lookedUp project
  have hversions : (b.lookedUp project).2.database.versions = b.database.versions := by
    rw [Backend.lookedUp_eq_withCache]
    rfl
  have hrun := run_summarize (s := s) (m := m) hb.bearable hb.roomy hpu
  cases hknown : (b.lookedUp project).1 with
  | some known =>
    rw [hknown] at hrun
    exact ⟨_, _, _, hrun, hm, hlooked, hversions ▸ .unversioned _ (by simp) rfl⟩
  | none =>
    rw [hknown] at hrun
    cases hr : (m.asked s project b).record with
    | none =>
      rw [hr] at hrun
      exact ⟨_, _, _, hrun, hasked, hlooked, hversions ▸ .refused _ _⟩
    | some r =>
      rw [hr] at hrun
      refine ⟨_, _, _, hrun, hasked, hlooked.refreshed _ _, ?_⟩
      rw [Backend.refreshed_versions, hversions]
      exact .unversioned _ (by simp) rfl

theorem ends_delete (hb : b.Sound) (hpu : project.isUtf8 = true) :
    Ends s project m b .delete := by
  obtain ⟨existed, hrun⟩ := run_remove (s := s) (m := m) hb.bearable hpu
  refine ⟨_, _, _, hrun, Memory.sound_holding (by simp),
    ((hb.forgotten project).purged project).invalidated project, ?_⟩
  rw [Backend.invalidated_versions, Backend.purged_versions, Backend.forgotten_purges,
    Backend.forgotten_versions]
  exact .deleted existed

/-- Every operation whose texts are texts, and whose files are a snapshot if it brings some, ends in
one of the ways there are. -/
theorem ends (hb : b.Sound) (hm : m.Sound) (hpu : project.isUtf8 = true) (hop : op.Plain)
    (hcheck : op.check = .ok ()) : Ends s project m b op := by
  have hasked := hm.asked hb s project
  cases hx : op.course? s project b.clock.now (m.asked s project b) with
  | some x =>
    rcases run_plain hb.bearable hb.roomy hpu hop hcheck hasked hx with
      ⟨a, rfl, hrun⟩ | ⟨e, -, hrun⟩ | ⟨v, r, report, -, hcommits, hr, -, hrun⟩
    · obtain ⟨hversion, hdelete⟩ := version?_of_answer hx
      exact ⟨_, _, _, hrun, hasked, hb, .unversioned a hdelete hversion⟩
    · exact ⟨_, _, _, hrun, hasked, hb, .refused op e⟩
    · refine ⟨_, _, _, hrun, Memory.sound_holding (by rintro _ ⟨⟩; exact hr),
        ((hb.offered v).saved hr).refreshed _ _, ?_⟩
      rw [Backend.refreshed_versions, Backend.saved_versions]
      exact hcommits.effect hpu hcheck hop hasked
  | none =>
    rcases course?_eq_none hx with rfl | rfl | ⟨limit, rfl⟩
    · exact ends_summary hb hm hpu
    · exact ends_delete hb hpu
    · obtain ⟨o, -, ho⟩ := run_page s limit hb.bearable hpu
      cases o with
      | error e => exact ⟨_, m, b, Routine.run_bind_error _ (ho m), hm, hb, .refused _ e⟩
      | ok page => exact ⟨_, m, b, Routine.run_bind_ok _ (ho m), hm, hb, .unversioned _ (by simp) rfl⟩

theorem Effect.ascending {o : Except ProjectError Answer} {t : VersionTable}
    (h : Effect s project m b op o t) (hb : b.database.versions.Ascending) :
    t.Ascending := by
  cases h with
  | refused | unversioned => exact hb
  | deleted =>
    split
    · exact hb.erase project
    · exact hb
  | versioned =>
    split
    · exact hb.append _
    · exact hb

end Operation

end SitePreview
