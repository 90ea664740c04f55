import SitePreview.Proofs.Project.Coherence
import SitePreview.Proofs.Project.Failures
import SitePreview.Snapshot.SyncRequest

/-! The gate for sync requests. A payload that passes it can be hashed and recorded in any state of
its project. All that may be wrong with it is what the gate does not look at: a message or a name
that cannot be written in UTF-8, which the store refuses. -/

namespace SitePreview

namespace SyncRequest

variable {q : SyncRequest}

/-- What the request asks of its project. -/
def operation (q : SyncRequest) : Operation :=
  .sync q.files (.text q.actorId) (.ofText? q.message) (.ofText? q.name)

/-- What the gate makes sure of: project and actor have names that can be written, and the files
form a snapshot. -/
structure Sound (q : SyncRequest) : Prop where
  project : q.projectId.isUtf8 = true ∧ q.projectId ≠ []
  actor : q.actorId.isUtf8 = true ∧ q.actorId ≠ []
  files : q.files.Legal

theorem filled_of_required {members : List (Text × Json)} {name t : Text}
    (h : Checked.required members name Checked.filledText = .ok t) :
    t.isUtf8 = true ∧ t ≠ [] := by
  rw [Checked.required] at h
  split at h
  · next v _ =>
    have h := Checked.inside_eq_ok.mp h
    cases v with
    | string u =>
      obtain ⟨hu, hne, rfl⟩ := Checked.filledText_eq_ok.mp h
      exact ⟨hu, hne⟩
    | null | bool | int | float | array | object => cases h
  · cases h

theorem sound_of_ofPayload {now : Timestamp} {payload : Json} {files : Option RawMapping}
    (h : ofPayload now payload files = .ok q) : q.Sound := by
  unfold ofPayload at h
  split at h
  case h_2 => cases h
  next members =>
  split at h
  · cases h
  next q' hcheck =>
  split at h
  · cases h
  next f hfiles =>
  cases h
  have hfilled : ∀ q, check now members files = .ok q →
      (q.projectId.isUtf8 = true ∧ q.projectId ≠ []) ∧ q.actorId.isUtf8 = true ∧ q.actorId ≠ [] := by
    unfold check
    extract_lets checkedFiles
    simp only [Checked.forall_seq, Checked.forall_map]
    intro project hproject actor hactor
    intros
    exact ⟨filled_of_required hproject, filled_of_required hactor⟩
  have hlegal : q.files.Legal := by
    rw [Snapshot.checkFiles] at hfiles
    split at hfiles
    · cases hfiles
    · next hnone => exact hnone
  exact ⟨(hfilled q hcheck).1, (hfilled q hcheck).2, hlegal⟩

/-- The version record of a change that the request makes, if records are kept. -/
def version? (q : SyncRequest) (s : ProjectSetup) (now : Timestamp) (d : SyncResult) :
    Option VersionRecord :=
  if s.keepsVersions then some (.ofChange now q.projectId q.actorId d q.message) else none

/-- The texts apart from ids and files that the store is given with the record which a project gets
behind the request: its name, which the request may bring, and its template. A record whose name is
no value of the store is not given to it. -/
def labels (q : SyncRequest) (known : Memory) : List Text :=
  match known.record with
  | none => [Operation.namedOr q.projectId q.name]
  | some r =>
    match (Operation.newName? r.name (.ofText? q.name)).getD (r.name, known.nameKind) with
    | (_, .compound) => []
    | (name, _) => name :: r.template.toList

/-- The store can write the texts that the gate lets through unseen. -/
structure Writable (q : SyncRequest) (s : ProjectSetup) (known : Memory) : Prop where
  message : s.keepsVersions = true → ∀ t ∈ q.message, t.isUtf8 = true
  labels : s.keepsProjects = true → ∀ t ∈ q.labels known, t.isUtf8 = true

instance (q : SyncRequest) (s : ProjectSetup) (known : Memory) : Decidable (q.Writable s known) :=
  decidable_of_iff ((s.keepsVersions = true → ∀ t ∈ q.message, t.isUtf8 = true) ∧
      (s.keepsProjects = true → ∀ t ∈ q.labels known, t.isUtf8 = true))
    ⟨fun h => ⟨h.1, h.2⟩, fun h => ⟨h.message, h.labels⟩⟩

/-- The store can take the version of a request that has passed the gate if it can write its
message. -/
theorem Sound.plain_version (h : q.Sound) {s : ProjectSetup} (now : Timestamp) {d : SyncResult}
    (hd : d.Storable) (hmessage : s.keepsVersions = true → ∀ t ∈ q.message, t.isUtf8 = true) :
    ∀ v ∈ q.version? s now d, (StoreCall.appendVersion v).Plain := by
  intro v hv
  rw [version?] at hv
  split at hv
  · next hs =>
    cases hv
    exact VersionRecord.plain_appendVersion h.project.1 h.actor.1 (hmessage hs) hd
  · cases hv

theorem Sound.check (h : q.Sound) : q.operation.check = .ok () := by
  have hfiles := FileSet.checkFiles_eq_ok_iff.mpr h.files
  simp only [Operation.check, operation, Operation.asksByCompound, Operation.newFiles?, hfiles]
  rfl

end SyncRequest

namespace Ledger

/-- The change of an actor whose name and whose project's name can be written is planned as it is,
with a record if records are kept. -/
theorem plan_of_outcome {s : ProjectSetup} {project actor : Text} {old : Option FileSet}
    {new : FileSet} {message : Option Text} {now : Timestamp} {d : SyncResult}
    (hproject : project.isUtf8 = true ∧ project ≠ []) (hactor : actor.isUtf8 = true ∧ actor ≠ [])
    (hd : d.Outcome old new) :
    plan s project (.text actor) old new (.ofText? message) now =
      .ok (d, if s.keepsVersions then some (.ofChange now project actor d message) else none) := by
  have hrecord : VersionRecord.ofResult now project (.text actor) d (.ofText? message) =
      .ok (.ofChange now project actor d message) :=
    VersionRecord.ofResult_eq_ok.mpr ⟨hproject, actor, message, rfl, rfl, hactor, rfl⟩
  rw [plan, hd.eq]
  dsimp only
  cases s.keepsVersions with
  | false => rfl
  | true =>
    rw [hrecord]
    rfl

end Ledger

namespace Backend

variable {b : Backend} {v : VersionRecord}

theorem Roomy.offered (h : b.Roomy) (v : Option VersionRecord) : (b.offered v).Roomy := by
  rw [b.offered_eq_withDatabase v]
  exact h

theorem Works.offer_of_unwritable (h : b.Works) {t : Text} (ht : v.message = some t)
    (hu : t.isUtf8 = false) : ∃ x, b.offer (some v) = (.error (.store (.notUtf8 x)), b) := by
  have hmem : t ∈ (StoreCall.appendVersion v).plainTexts := by
    simp [StoreCall.plainTexts, ht]
  obtain ⟨x, hx⟩ := h.perform_of_not_isUtf8 hmem hu
  refine ⟨x, ?_⟩
  rw [offer, hx]
  rfl

end Backend

namespace Operation

open Routine

variable {s : ProjectSetup} {project : Text} {m : Memory} {b : Backend} {r : ProjectRecord}
  {kind : NameKind}

/-- The store takes a record whose name and template can be written, and a cache with room its
files. -/
theorem run_accept_of_writable (hb : b.Works) (hroomy : b.Roomy) (hr : r.Intact project)
    (hlabels : s.keepsProjects = true → kind ≠ .compound →
      ∀ t ∈ r.name :: r.template.toList, t.isUtf8 = true) :
    ∃ b', (accept s project r kind).run m b =
      (.ok (), { m with record := some r, nameKind := kind }, b') := by
  rcases run_accept_of_works (s := s) (m := m) hb hr kind with hok | ⟨e, b', -, hrefuses⟩
  · exact hok
  generalize b'.database = database at hrefuses
  cases hrefuses with
  | unsaved hs hkind ht hx =>
    rw [Text.encodeErrorFrom?_eq_none_iff.mpr (hlabels hs hkind _ ht)] at hx
    cases hx
  | uncached hfull => exact absurd hroomy hfull

variable (project) in
/-- The store refuses a record whose name or template cannot be written. -/
theorem run_accept_of_unwritable (hb : b.Works) (hs : s.keepsProjects = true)
    (hkind : kind ≠ .compound) {t : Text} (ht : t ∈ r.name :: r.template.toList)
    (hu : t.isUtf8 = false) :
    ∃ x, (accept s project r kind).run m b = (.error (.store (.notUtf8 x)),
      { m with record := some r, nameKind := kind }, b) := by
  have hmem : t ∈ (StoreCall.saveProject r).plainTexts := by
    simp only [StoreCall.plainTexts, List.mem_append, List.mem_cons, List.not_mem_nil, or_false]
    rcases List.mem_cons.mp ht with rfl | ht
    · exact .inl (.inl (.inr (.inr rfl)))
    · exact .inl (.inr ht)
  obtain ⟨x, hcall⟩ := hb.perform_of_not_isUtf8 hmem hu
  refine ⟨x, ?_⟩
  rw [accept, run_memory_bind, run_setMemory_bind, if_pos hkind]
  refine run_bind_error _ ?_
  rw [persist, hs]
  exact run_askOr_notUtf8 (c := .saveProject r) _ hcall

/-- Of a request that has passed the gate a record can be made, whatever is known of its project. -/
theorem nextRecord_of_sound {q : SyncRequest} {known : Memory} (hq : q.Sound)
    (hknown : known.Intact q.projectId) {d : SyncResult} (hd : q.files.hash = .ok d.hash)
    (now : Timestamp) :
    ∃ r kind, nextRecord now q.projectId known (.text q.actorId) (.ofText? q.name) q.files d =
        .ok (r, kind) ∧
      r.Intact q.projectId ∧ r.files = q.files ∧
      q.labels known = if kind = .compound then [] else r.name :: r.template.toList := by
  rw [SyncRequest.labels, nextRecord]
  cases hr : known.record with
  | none =>
    have hnew : ProjectRecord.new now q.projectId (.text q.actorId)
        (.text (namedOr q.projectId q.name)) .nothing q.files d.hash =
        .ok (.ofTexts now q.projectId q.actorId (namedOr q.projectId q.name) none q.files d.hash) :=
      ProjectRecord.new_eq_ok.mpr
        ⟨hq.project, q.actorId, _, none, rfl, rfl, rfl, hq.actor, rfl⟩
    refine ⟨_, .text, ?_, ProjectRecord.intact_of_new hnew hq.files hd, rfl, rfl⟩
    dsimp only
    rw [newRecord, nameOrProject, hnew]
  | some r =>
    dsimp only
    rcases (newName? r.name (.ofText? q.name)).getD (r.name, known.nameKind) with ⟨name, kind⟩
    refine ⟨_, kind, rfl, (hknown r hr).withFiles hq.files hd name now, rfl, ?_⟩
    cases kind <;> rfl

/-- A request that has passed the gate commits, whatever is known of its project. -/
theorem course_of_sound {q : SyncRequest} {known : Memory} (hq : q.Sound)
    (hknown : known.Intact q.projectId) (s : ProjectSetup) (now : Timestamp) :
    ∃ d r kind, q.operation.course? s q.projectId now known =
        some (.commit (q.version? s now d) r kind fun recorded =>
          .synced { d with recorded := recorded }) ∧
      d.Storable ∧ r.Intact q.projectId ∧ r.files = q.files ∧
      q.labels known = if kind = .compound then [] else r.name :: r.template.toList := by
  have hold : ∀ f ∈ known.record.map ProjectRecord.files, f.Legal := by
    intro f hf
    obtain ⟨r, hr, rfl⟩ := Option.map_eq_some_iff.mp hf
    exact (hknown r hr).files
  obtain ⟨d, hd⟩ := SyncResult.exists_outcome (known.record.map ProjectRecord.files) hold hq.files
  obtain ⟨r, kind, hmade, hr, hfiles, hlabels⟩ := nextRecord_of_sound hq hknown hd.hash now
  refine ⟨d, r, kind, ?_, hd.storable, hr, hfiles, hlabels⟩
  rw [SyncRequest.operation, course?, syncCourse, Ledger.plan_of_outcome hq.project hq.actor hd,
    Course.ofPlan, hmade]
  rfl

section Passing

variable {q : SyncRequest} (hq : q.Sound) (hb : b.Works) (hroomy : b.Roomy) (hintact : b.Intact)
  (hm : m.Intact q.projectId)

include hq hb hroomy hintact hm

/-- A request that has passed the gate is answered and its files are remembered, if the store can
write what the gate has not looked at. -/
theorem run_of_writable (hwritable : q.Writable s (m.asked s q.projectId b)) :
    ∃ d m' b', (q.operation.routine s q.projectId).run m b = (.ok (.synced d), m', b') ∧
      m'.loaded = true ∧ ∃ r, m'.record = some r ∧ r.files = q.files := by
  obtain ⟨d, r, kind, hcourse, hd, hr, hfiles, hlabels⟩ :=
    course_of_sound hq (hm.asked hintact) s b.clock.now
  have hload := run_ensureLoaded (s := s) (m := m) hb.bearable hq.project.1
  have hoffer :=
    Backend.offer_plain hb.bearable (hq.plain_version b.clock.now hd hwritable.message)
  have hwritten : s.keepsProjects = true → kind ≠ .compound →
      ∀ t ∈ r.name :: r.template.toList, t.isUtf8 = true := by
    intro hs hkind
    have hwritten := hwritable.labels hs
    rw [hlabels, if_neg hkind] at hwritten
    exact hwritten
  obtain ⟨b', haccept⟩ := run_accept_of_writable (s := s) (m := m.asked s q.projectId b)
    (hb.offered _) (hroomy.offered _) hr hwritten
  refine ⟨{ d with recorded := b.takes (q.version? s b.clock.now d) },
    { m.asked s q.projectId b with record := some r, nameKind := kind }, b', ?_,
    m.asked_loaded s q.projectId b, r, rfl, hfiles⟩
  rw [run_course hload hcourse, Course.run_commit, hoffer]
  dsimp only
  rw [run_bind_ok _ haccept]
  rfl

omit hroomy in
/-- Where the store cannot write what the gate has not looked at, the request is refused by it. -/
theorem run_of_unwritable (hunwritable : ¬ q.Writable s (m.asked s q.projectId b)) :
    ∃ x, ((q.operation.routine s q.projectId).run m b).1 = .error (.store (.notUtf8 x)) := by
  obtain ⟨d, r, kind, hcourse, hd, hr, -, hlabels⟩ :=
    course_of_sound hq (hm.asked hintact) s b.clock.now
  have hload := run_ensureLoaded (s := s) (m := m) hb.bearable hq.project.1
  rw [run_course hload hcourse, Course.run_commit]
  by_cases hmessage : s.keepsVersions = true → ∀ t ∈ q.message, t.isUtf8 = true
  · -- the version is written, so it is the record that is not
    have hoffer :=
      Backend.offer_plain hb.bearable (hq.plain_version b.clock.now hd hmessage)
    have hlabel : s.keepsProjects = true ∧
        ∃ t ∈ q.labels (m.asked s q.projectId b), t.isUtf8 = false := by
      by_contra hnone
      refine hunwritable ⟨hmessage, fun hs t ht => ?_⟩
      by_contra hu
      exact hnone ⟨hs, t, ht, Bool.eq_false_iff.mpr hu⟩
    obtain ⟨hs, t, ht, hu⟩ := hlabel
    rw [hlabels] at ht
    split at ht
    · cases ht
    · next hkind =>
      obtain ⟨x, haccept⟩ := run_accept_of_unwritable (m := m.asked s q.projectId b)
        q.projectId (hb.offered _) hs hkind ht hu
      refine ⟨x, ?_⟩
      rw [hoffer]
      dsimp only
      rw [run_bind_error _ haccept]
  · push Not at hmessage
    obtain ⟨hs, t, ht, hu⟩ := hmessage
    obtain ⟨x, hoffer⟩ := hb.offer_of_unwritable
      (v := .ofChange b.clock.now q.projectId q.actorId d q.message) ht (Bool.eq_false_iff.mpr hu)
    rw [SyncRequest.version?, if_pos hs, hoffer]
    exact ⟨x, rfl⟩

end Passing

end Operation

namespace Registry

variable {r : Registry} {q : SyncRequest} {now : Timestamp} {payload : Json}
  {files : Option RawMapping}

/-- In any state in which the store works and the cache has room, a request that has passed the gate
is answered, and then a snapshot shows its files, exactly if the store can write the message and the
name and template of the project. If it cannot, this is the error. -/
theorem perform_of_accepted (hr : r.Reachable) (hworks : r.backend.Works)
    (hroomy : r.backend.Roomy) (haccepted : SyncRequest.ofPayload now payload files = .ok q) :
    let known := (r.memoryOf q.projectId).asked r.setup q.projectId r.backend
    (q.Writable r.setup known → ∃ d r', r.perform q.projectId q.operation = (.ok (.synced d), r') ∧
      r'.snapshotOf q.projectId = .ok (.files q.files)) ∧
    (¬ q.Writable r.setup known →
      ∃ x, (r.perform q.projectId q.operation).1 = .error (.store (.notUtf8 x))) := by
  have hq := SyncRequest.sound_of_ofPayload haccepted
  have hintact := hr.intact
  have hm := hintact.memoryOf q.projectId
  refine ⟨fun hwritable => ?_, fun hunwritable => ?_⟩
  · obtain ⟨d, m', b', hrun, hloaded, record, hrecord, hfiles⟩ :=
      Operation.run_of_writable hq hworks hroomy hintact.backend hm hwritable
    obtain ⟨hanswer, hsetup, hbackend, hmemory⟩ :=
      hintact.addressed.perform_eq hq.project.2 hq.check hrun
    refine ⟨d, _, Prod.ext hanswer rfl, ?_⟩
    have hafter := (hintact.perform q.projectId q.operation).1
    rw [hafter.addressed.snapshotOf_eq hq.project.2, hmemory, if_pos rfl, ← hfiles]
    exact Operation.snapshotBy_of_loaded hloaded hrecord
  · obtain ⟨x, hrun⟩ := Operation.run_of_unwritable hq hworks hintact.backend hm hunwritable
    exact ⟨x, (hintact.addressed.perform_eq hq.project.2 hq.check rfl).1.trans hrun⟩

/-- A registry whose cache has room for one entry, with a project. -/
def cachingRegistry : Registry :=
  ((opened {} (some { policy := { capacity := 1 } }) { now := { seconds := 0 } }).perform "p1"
    demoCreation).2

def demoPayload (name : Text) : Json :=
  .object [("project_id", .string "p1"), ("actor_id", .string "u2"), ("name", .string name),
    ("message", .string "second draft")]

def demoRequest (name : Text) : SyncRequest where
  projectId := "p1"
  actorId := "u2"
  files := .ofList [("b.txt", "2")]
  name := some name
  message := some "second draft"
  receivedAt := { seconds := 0 }

theorem demoRequest_accepted (name : Text) :
    SyncRequest.ofPayload { seconds := 0 } (demoPayload name)
      (some (.ofFiles (.ofList [("b.txt", "2")]))) = .ok (demoRequest name) := by
  rfl

theorem cachingRegistry_ready :
    cachingRegistry.Reachable ∧ cachingRegistry.backend.Works ∧ cachingRegistry.backend.Roomy := by
  refine ⟨⟨{}, some { policy := { capacity := 1 } }, { now := { seconds := 0 } },
    [.step (.perform "p1" demoCreation)], rfl⟩, works_perform ⟨rfl, rfl⟩ _ _, ?_⟩
  have hroom : cachingRegistry.backend.cache.all (fun c => 1 ≤ c.policy.capacity) = true := by
    decide +kernel
  intro c hc
  rw [Option.mem_def.mp hc] at hroom
  exact of_decide_eq_true hroom

/-- A second draft replaces the files of a project and renames it. -/
theorem perform_of_accepted_draft :
    ∃ d r', cachingRegistry.perform "p1" (demoRequest "Draft").operation = (.ok (.synced d), r') ∧
      r'.snapshotOf "p1" = .ok (.files (.ofList [("b.txt", "2")])) := by
  obtain ⟨hreach, hworks, hroomy⟩ := cachingRegistry_ready
  exact (perform_of_accepted hreach hworks hroomy (demoRequest_accepted "Draft")).1
    (by decide +kernel)

/-- The gate lets a name through that the store cannot write: the request is refused then. -/
theorem refused_behind_gate :
    let request := demoRequest [⟨0xD800, by decide⟩]
    SyncRequest.ofPayload { seconds := 0 } (demoPayload [⟨0xD800, by decide⟩])
        (some (.ofFiles (.ofList [("b.txt", "2")]))) = .ok request ∧
      (cachingRegistry.Reachable ∧ cachingRegistry.backend.Works ∧
        cachingRegistry.backend.Roomy) ∧
      (cachingRegistry.perform "p1" request.operation).1 =
        .error (.store (.notUtf8 ⟨0, ⟨0xD800, by decide⟩, 1⟩)) :=
  ⟨demoRequest_accepted _, cachingRegistry_ready, by decide +kernel⟩

end Registry

end SitePreview
