import SitePreview.Proofs.Project.Course
import SitePreview.Proofs.Project.Runs
import SitePreview.Proofs.Project.Upholding

/-! What operations commit. There are four ways to commit a record; in each of them the record
follows from the one that was known, and texts that can be written make a version and a record that
the store can keep. -/

namespace SitePreview

namespace Ledger

variable {s : ProjectSetup} {project : Text} {actor message : Given} {old : Option FileSet}
  {new : FileSet} {now : Timestamp} {d : SyncResult} {v : Option VersionRecord}

/-- The plan of a change is the change, with the version record that is made of it if records are
kept. -/
theorem plan_eq_ok (h : plan s project actor old new message now = .ok (d, v)) :
    SyncResult.between old new = .ok d ∧ v.isSome = s.keepsVersions ∧
      ∀ w ∈ v, VersionRecord.ofResult now project actor d message = .ok w := by
  rw [plan] at h
  cases hd : SyncResult.between old new with
  | error e =>
    rw [hd] at h
    cases h
  | ok d' =>
    rw [hd] at h
    dsimp only at h
    cases hs : s.keepsVersions with
    | false =>
      rw [hs] at h
      cases h
      exact ⟨rfl, rfl, by simp⟩
    | true =>
      rw [hs] at h
      cases hw : VersionRecord.ofResult now project actor d' message with
      | bad is =>
        rw [hw] at h
        cases h
      | ok w =>
        rw [hw] at h
        cases h
        refine ⟨rfl, rfl, ?_⟩
        rintro _ ⟨⟩
        exact hw

theorem hash_of_plan (h : plan s project actor old new message now = .ok (d, v)) :
    new.hash = .ok d.hash :=
  (SyncResult.between_eq_ok.mp (plan_eq_ok h).1).1

theorem outcome_of_plan (h : plan s project actor old new message now = .ok (d, v))
    (hold : ∀ f ∈ old, f.Legal) (hnew : new.Legal) : d.Outcome old new := by
  obtain ⟨x, hx⟩ := SyncResult.exists_outcome old hold hnew
  exact Except.ok.inj (hx.eq.symm.trans (plan_eq_ok h).1) ▸ hx

end Ledger

namespace Course

variable {plan : Except ProjectError (SyncResult × Option VersionRecord)}
  {made : SyncResult → Checked (ProjectRecord × NameKind)}
  {answer : ProjectRecord → SyncResult → Answer} {v : Option VersionRecord} {r : ProjectRecord}
  {kind : NameKind} {report : Bool → Answer} {e : ProjectError}

theorem ofPlan_eq_commit (h : ofPlan plan made answer = .commit v r kind report) :
    ∃ d, plan = .ok (d, v) ∧ made d = .ok (r, kind) ∧
      report = fun recorded => answer r { d with recorded := recorded } := by
  unfold ofPlan at h
  split at h
  · cases h
  · next d v' =>
    split at h
    · cases h
    · next hmade =>
      cases h
      exact ⟨d, rfl, hmade, rfl⟩

theorem ofPlan_eq_refuse (h : ofPlan plan made answer = .refuse v e) :
    v = none ∨ ∃ d is, plan = .ok (d, v) ∧ made d = .bad is := by
  unfold ofPlan at h
  split at h
  · cases h
    exact .inl rfl
  · next d v' =>
    split at h
    · next is hmade =>
      cases h
      exact .inr ⟨d, is, rfl, hmade⟩
    · cases h

theorem ofWritten_eq_commit {α : Type} {written : Except Text.EncodeError α} {f : α → Course}
    (h : ofWritten written f = .commit v r kind report) :
    ∃ a, written = .ok a ∧ f a = .commit v r kind report := by
  cases written with
  | error e => cases h
  | ok a => exact ⟨a, rfl, h⟩

/-- The course is to answer or to refuse at once. -/
def Quiet : Course → Prop
  | .answer _ => True
  | .refuse v _ => v = none
  | .commit .. => False

theorem quiet_ofWritten {α : Type} {written : Except Text.EncodeError α} {f : α → Course}
    (h : ∀ a, (f a).Quiet) : (ofWritten written f).Quiet := by
  cases written with
  | error e => exact rfl
  | ok a => exact h a

end Course

/-- The answer with all masked in which a failure of the store may show: whether a version was
recorded, a page of history, and whether there was a project to delete. -/
def Answer.masked : Answer → Answer
  | synced d => synced { d with recorded := true }
  | history _ => history .unavailable
  | deleted _ => deleted true
  | answer => answer

/-- How the record that a project gets follows from the one that it had, if it had any. -/
structure ProjectRecord.Succeeds (project : Text) (now : Timestamp) (known : Option ProjectRecord)
    (r : ProjectRecord) : Prop where
  intact : r.Intact project
  created : r.createdAt = (known.map ProjectRecord.createdAt).getD now
  updated : r.updatedAt = now

namespace Operation

variable {s : ProjectSetup} {project : Text} {m : Memory} {op : Operation} {now : Timestamp}
  {v : Option VersionRecord} {r : ProjectRecord} {kind : NameKind} {report : Bool → Answer}

theorem quiet_ofRecord {f : ProjectRecord → Course} (h : ∀ r, (f r).Quiet) :
    (ofRecord project m f).Quiet := by
  rw [ofRecord]
  split
  · exact rfl
  · exact h _

theorem quiet_of_reads {x : Course} (hop : op.reads = true)
    (h : op.course? s project now m = some x) : x.Quiet := by
  cases op with
  | create | sync | write | summary | delete => cases hop
  | history => cases h
  | content | snapshot =>
    cases h
    exact quiet_ofRecord fun r => trivial
  | listFiles =>
    cases h
    exact quiet_ofRecord fun r => Course.quiet_ofWritten fun _ => trivial
  | status | render =>
    cases h
    refine quiet_ofRecord fun r => ?_
    split
    · trivial
    · exact rfl

theorem succeeds_of_newRecord {owner name template : Given} {files : FileSet} {d : SyncResult}
    (h : newRecord now project owner name template files d = .ok (r, kind)) (hfiles : files.Legal)
    (hhash : files.hash = .ok d.hash) : r.Succeeds project now none := by
  rw [newRecord] at h
  split at h
  case h_2 => cases h
  next x hx =>
  cases h
  have hintact := ProjectRecord.intact_of_new hx hfiles hhash
  obtain ⟨-, o, n, t, -, -, -, -, rfl⟩ := ProjectRecord.new_eq_ok.mp hx
  exact ⟨hintact, rfl, rfl⟩

/-- The ways in which an operation commits: a project is created, it comes to be by a replacement of
its files or has them replaced, or its files are edited. -/
inductive Commits (s : ProjectSetup) (project : Text) (now : Timestamp) (m : Memory) :
    Operation → Option VersionRecord → ProjectRecord → NameKind → (Bool → Answer) → Prop
  | create {owner name template template' : Given} {files : Option FileSet} {created : FileSet}
      {message : Text} {v : Option VersionRecord} {r : ProjectRecord} {kind : NameKind}
      {d : SyncResult} (hr : m.record = none)
      (hstart : start template files = (created, template', message))
      (hplan : Ledger.plan s project owner none created (.text message) now = .ok (d, v))
      (hnew : newRecord now project owner name template' created d = .ok (r, kind)) :
    Commits s project now m (.create owner name template files) v r kind fun _ =>
      .status r.status
  | found {files : FileSet} {actor message name : Given} {v : Option VersionRecord}
      {r : ProjectRecord} {kind : NameKind} {d : SyncResult} (hr : m.record = none)
      (hplan : Ledger.plan s project actor none files message now = .ok (d, v))
      (hnew : newRecord now project actor (if name.isNothing then .text project else name) .nothing
        files d = .ok (r, kind)) :
    Commits s project now m (.sync files actor message name) v r kind fun recorded =>
      .synced { d with recorded := recorded }
  | replace {files : FileSet} {actor message name : Given} {v : Option VersionRecord}
      {known : ProjectRecord} {d : SyncResult} {named : Text} {kind : NameKind}
      (hr : m.record = some known)
      (hplan : Ledger.plan s project actor (some known.files) files message now = .ok (d, v))
      (hname : (newName? known.name name).getD (known.name, m.nameKind) = (named, kind)) :
    Commits s project now m (.sync files actor message name) v
      { known with name := named, files := files, filesHash := d.hash, updatedAt := now } kind
      fun recorded => .synced { d with recorded := recorded }
  | edit {edits : List FileEdit} {known : ProjectRecord} {results : List EditResult}
      {files : FileSet} {hash : Text} (hr : m.record = some known)
      (hedits : FileEdit.applyAll known.files edits = (results, some files))
      (hhash : files.hash = .ok hash) :
    Commits s project now m (.write edits) none
      { known with files := files, filesHash := hash, updatedAt := now } m.nameKind
      fun _ => .edited results

theorem commits_of_course? (h : op.course? s project now m = some (.commit v r kind report)) :
    Commits s project now m op v r kind report := by
  cases op with
  | create owner name template files =>
    rcases hstart : start template files with ⟨created, template', message⟩
    rw [course?, hstart] at h
    have h := Option.some.inj h
    rw [createCourse] at h
    split at h
    · cases h
    next hr =>
    obtain ⟨d, hplan, hnew, rfl⟩ := Course.ofPlan_eq_commit h
    exact .create hr hstart hplan hnew
  | sync files actor message name =>
    obtain ⟨d, hplan, hmade, rfl⟩ := Course.ofPlan_eq_commit (Option.some.inj h)
    rw [nextRecord] at hmade
    split at hmade
    · next hr =>
      rw [hr] at hplan
      exact .found hr hplan hmade
    · next known hr =>
      rw [hr] at hplan
      cases hmade
      exact .replace hr hplan rfl
  | write edits =>
    have h := Option.some.inj h
    rw [ofRecord] at h
    split at h
    · cases h
    next known hr =>
    split at h
    · cases h
    next results files hedits =>
    obtain ⟨hash, hhash, h⟩ := Course.ofWritten_eq_commit h
    cases h
    exact .edit hr hedits hhash
  | content | listFiles | snapshot | status | render =>
    have hquiet : (Course.commit v r kind report).Quiet := quiet_of_reads rfl h
    cases hquiet
  | summary | history | delete => cases h

theorem Commits.succeeds (h : Commits s project now m op v r kind report)
    (hcheck : op.check = .ok ()) (hm : m.Intact project) : r.Succeeds project now m.record := by
  cases h with
  | create hr hstart hplan hnew =>
    have hlegal := legal_of_check hcheck (by rw [newFiles?, hstart])
    exact hr ▸ succeeds_of_newRecord hnew hlegal (Ledger.hash_of_plan hplan)
  | found hr hplan hnew =>
    exact hr ▸ succeeds_of_newRecord hnew (legal_of_check hcheck rfl) (Ledger.hash_of_plan hplan)
  | replace hr hplan hname =>
    have hintact := (hm _ hr).withFiles (legal_of_check hcheck rfl) (Ledger.hash_of_plan hplan)
    exact hr ▸ ⟨hintact _ _, rfl, rfl⟩
  | edit hr hedits hhash =>
    have hlegal := FileEdit.applyAll_legal (hm _ hr).files (congrArg Prod.snd hedits)
    exact hr ▸ ⟨(hm _ hr).withFiles hlegal hhash _ _, rfl, rfl⟩

/-- An operation that commits is answered in the same way whether its version was recorded or not,
apart from what says so. -/
theorem Commits.masked (h : Commits s project now m op v r kind report) (recorded : Bool) :
    (report recorded).masked = (report true).masked := by
  cases h <;> rfl

theorem kind_of_newRecord {owner name template : Given} {files : FileSet} {d : SyncResult}
    (h : newRecord now project owner name template files d = .ok (r, kind)) : kind = .text := by
  rw [newRecord] at h
  split at h
  · cases h
    rfl
  · cases h

theorem Commits.kind_eq (h : Commits s project now m op v r kind report) (hop : op.Textual)
    (hm : m.nameKind = .text) : kind = .text := by
  cases h with
  | create _ _ _ hnew | found _ _ hnew => exact kind_of_newRecord hnew
  | replace _ _ hname =>
    obtain ⟨-, -, ⟨name, rfl⟩⟩ := hop
    rw [hm, newName?_getD] at hname
    exact (congrArg Prod.snd hname).symm
  | edit => exact hm

theorem plain_of_plan {actor message : Given} {old : Option FileSet} {files : FileSet}
    {d : SyncResult} (h : Ledger.plan s project actor old files message now = .ok (d, v))
    (hold : ∀ f ∈ old, f.Legal) (hfiles : files.Legal) (hmessage : message.WrittenOrNothing) :
    ∀ w ∈ v, (StoreCall.appendVersion w).Plain := by
  intro w hw
  obtain ⟨⟨hpu, -⟩, a, t, -, rfl, ⟨hau, -⟩, rfl⟩ :=
    VersionRecord.ofResult_eq_ok.mp ((Ledger.plan_eq_ok h).2.2 w hw)
  exact VersionRecord.plain_appendVersion hpu hau (Given.writtenOrNothing_ofText?.mp hmessage)
    (Ledger.outcome_of_plan h hold hfiles).storable

theorem storable_of_newRecord {owner name template : Given} {files : FileSet} {d : SyncResult}
    (h : newRecord now project owner name template files d = .ok (r, kind))
    (hname : project.isUtf8 = true → name.Written) (htemplate : template.WrittenOrNothing)
    (hfiles : files.Legal) (hhash : files.hash = .ok d.hash) : r.Storable := by
  rw [newRecord] at h
  split at h
  case h_2 => cases h
  next x hx =>
  cases h
  obtain ⟨⟨hpu, -⟩, o, n, t, -, rfl, rfl, ⟨hou, -⟩, rfl⟩ := ProjectRecord.new_eq_ok.mp hx
  exact ⟨hpu, hou, Given.written_text.mp (hname hpu), Given.writtenOrNothing_ofText?.mp htemplate,
    hfiles, hhash⟩

/-- Of an operation whose texts can be written, so can be the version and the record that it
commits. -/
theorem Commits.plain (h : Commits s project now m op v r kind report) (hcheck : op.check = .ok ())
    (hop : op.Plain) (hs : m.Sound) : r.Storable ∧ ∀ w ∈ v, (StoreCall.appendVersion w).Plain := by
  cases h with
  | create hr hstart hplan hnew =>
    have hlegal := legal_of_check hcheck (by rw [newFiles?, hstart])
    obtain ⟨-, hname, htemplate⟩ := hop
    obtain ⟨_, t, _, hstart', ht, hmessage⟩ := start_written htemplate _
    rw [hstart'] at hstart
    cases hstart
    refine ⟨storable_of_newRecord hnew (fun _ => hname) (Given.writtenOrNothing_ofText?.mpr ht)
      hlegal (Ledger.hash_of_plan hplan), ?_⟩
    refine plain_of_plan hplan (by simp) hlegal ⟨some _, ?_, rfl⟩
    rintro _ ⟨⟩
    exact hmessage
  | found hr hplan hnew =>
    have hlegal := legal_of_check hcheck rfl
    obtain ⟨-, hmessage, ⟨name, hname, rfl⟩⟩ := hop
    refine ⟨?_, plain_of_plan hplan (by simp) hlegal hmessage⟩
    rw [nameOrProject] at hnew
    exact storable_of_newRecord hnew
      (fun hpu => Given.written_text.mpr (isUtf8_namedOr hpu hname)) ⟨none, by simp, rfl⟩ hlegal
      (Ledger.hash_of_plan hplan)
  | replace hr hplan hname =>
    have hlegal := legal_of_check hcheck rfl
    have hknown := hs.record _ hr
    obtain ⟨-, hmessage, ⟨name, hn, rfl⟩⟩ := hop
    refine ⟨?_, plain_of_plan hplan ?_ hlegal hmessage⟩
    · rw [hs.nameKind, newName?_getD] at hname
      cases hname
      exact ⟨hknown.project, hknown.owner, isUtf8_namedOr hknown.name hn, hknown.template, hlegal,
        Ledger.hash_of_plan hplan⟩
    · rintro f ⟨⟩
      exact hknown.files
  | edit hr hedits hhash =>
    have hknown := hs.record _ hr
    have hlegal := FileEdit.applyAll_legal hknown.files (congrArg Prod.snd hedits)
    exact ⟨⟨hknown.project, hknown.owner, hknown.name, hknown.template, hlegal, hhash⟩,
      by simp⟩

/-- Where a version could be made of a change, so can a record be. -/
theorem newRecord_of_version {actor message : Given} {d : SyncResult} {w : VersionRecord}
    (hw : VersionRecord.ofResult now project actor d message = .ok w) (name : Text)
    (template : Option Text) (files : FileSet) :
    ∃ r, newRecord now project actor (.text name) (.ofText? template) files d = .ok (r, .text) := by
  obtain ⟨⟨hpu, hp⟩, a, -, rfl, -, ⟨hau, ha⟩, -⟩ := VersionRecord.ofResult_eq_ok.mp hw
  have hnew : ProjectRecord.new now project (.text a) (.text name) (.ofText? template) files
      d.hash = .ok (.ofTexts now project a name template files d.hash) :=
    ProjectRecord.new_eq_ok.mpr ⟨⟨hpu, hp⟩, a, name, template, rfl, rfl, rfl, ⟨hau, ha⟩, rfl⟩
  exact ⟨_, by rw [newRecord, hnew]⟩

/-- The ways in which an operation is refused: before any version is offered, or because no record
can be made of a project that there was none of. -/
inductive Declines (s : ProjectSetup) (project : Text) (now : Timestamp) (m : Memory) :
    Operation → Option VersionRecord → Prop
  | early {op : Operation} : Declines s project now m op none
  | create {owner name template template' : Given} {files : Option FileSet} {created : FileSet}
      {message : Text} {v : Option VersionRecord} {d : SyncResult} {is : List Issue}
      (hstart : start template files = (created, template', message))
      (hplan : Ledger.plan s project owner none created (.text message) now = .ok (d, v))
      (hnew : newRecord now project owner name template' created d = .bad is) :
    Declines s project now m (.create owner name template files) v
  | found {files : FileSet} {actor message name : Given} {v : Option VersionRecord}
      {d : SyncResult} {is : List Issue}
      (hplan : Ledger.plan s project actor none files message now = .ok (d, v))
      (hnew : newRecord now project actor (if name.isNothing then .text project else name) .nothing
        files d = .bad is) :
    Declines s project now m (.sync files actor message name) v

theorem declines_of_course? {e : ProjectError}
    (h : op.course? s project now m = some (.refuse v e)) : Declines s project now m op v := by
  cases op with
  | create owner name template files =>
    rcases hstart : start template files with ⟨created, template', message⟩
    rw [course?, hstart] at h
    have h := Option.some.inj h
    rw [createCourse] at h
    split at h
    · cases h
      exact .early
    rcases Course.ofPlan_eq_refuse h with rfl | ⟨d, is, hplan, hnew⟩
    · exact .early
    · exact .create hstart hplan hnew
  | sync files actor message name =>
    rcases Course.ofPlan_eq_refuse (Option.some.inj h) with rfl | ⟨d, is, hplan, hmade⟩
    · exact .early
    rw [nextRecord] at hmade
    split at hmade
    · next hr =>
      rw [hr] at hplan
      exact .found hplan hmade
    · cases hmade
  | write edits =>
    have h := Option.some.inj h
    rw [ofRecord] at h
    split at h
    · cases h
      exact .early
    split at h
    · cases h
    next files _ =>
    cases hh : files.hash with
    | error e =>
      rw [hh] at h
      cases h
      exact .early
    | ok hash =>
      rw [hh] at h
      cases h
  | content | listFiles | snapshot | status | render =>
    have hquiet : (Course.refuse v e).Quiet := quiet_of_reads rfl h
    cases (show v = none from hquiet)
    exact .early
  | summary | history | delete => cases h

/-- An operation whose texts are texts is refused before any version is offered. -/
theorem Declines.eq_none (h : Declines s project now m op v) (hop : op.Textual) : v = none := by
  cases v with
  | none => rfl
  | some w =>
    cases h with
    | @create _ _ template _ files created _ _ d is hstart hplan hnew =>
      obtain ⟨-, ⟨name, rfl⟩, htemplate⟩ := hop
      obtain ⟨created, template, message, hstart'⟩ := start_textual htemplate files
      rw [hstart'] at hstart
      cases hstart
      obtain ⟨r, hr⟩ :=
        newRecord_of_version ((Ledger.plan_eq_ok hplan).2.2 w rfl) name template created
      rw [hr] at hnew
      cases hnew
    | @found files actor message _ _ d is hplan hnew =>
      obtain ⟨-, -, ⟨name, rfl⟩⟩ := hop
      obtain ⟨r, hr⟩ := newRecord_of_version ((Ledger.plan_eq_ok hplan).2.2 w rfl)
        (namedOr project name) none files
      rw [nameOrProject] at hnew
      rw [Given.ofText?] at hr
      rw [hr] at hnew
      cases hnew

end Operation

end SitePreview
