import SitePreview.Proofs.Project.Acceptance
import SitePreview.Proofs.Project.Coherence
import SitePreview.Proofs.Project.EditBatch
import SitePreview.Proofs.Project.Failures

/-! Batches of edits on a project. A batch gives the results of its edits one after another, and a
batch that is cut in two gives the same. What it leaves is remembered whatever the store answers; a
batch without a change leaves all as it was. -/

namespace SitePreview

namespace Operation

open Routine

variable {s : ProjectSetup} {project : Text} {m : Memory} {b : Backend} {k : ProjectRecord}
  {files : FileSet} {edits : List FileEdit}

/-- The conditions under which a changed record is taken everywhere: the cache has room, and where
the record is saved, the store does not crash and, if calls get through to it, can write the name
and the template. -/
structure TakesEdits (s : ProjectSetup) (m : Memory) (b : Backend) : Prop where
  spacious : b.Spacious
  fault : s.keepsProjects = true ∧ m.nameKind ≠ .compound → b.faults .saveProject ≠ some .crash
  labels : s.keepsProjects = true ∧ m.nameKind ≠ .compound → b.reaches .saveProject = true →
    ∀ k ∈ m.record, ∀ t ∈ k.name :: k.template.toList, t.isUtf8 = true

/-- The record behind a batch that has changed its files. -/
def edited (k : ProjectRecord) (files : FileSet) (hash : Text) (now : Timestamp) : ProjectRecord :=
  { k with files := files, filesHash := hash, updatedAt := now }

theorem TakesEdits.bears (h : TakesEdits s m b) (hk : m.record = some k) {r : ProjectRecord}
    (hname : r.name = k.name) (htemplate : r.template = k.template) (hr : r.Intact project) :
    b.Bears s r m.nameKind := by
  intro hsaves e he
  refine Backend.isOutage_of_perform (h.fault hsaves) (fun hreaches => ?_) he
  have hlabels := h.labels hsaves hreaches k hk
  rw [← hname, ← htemplate, List.forall_mem_cons] at hlabels
  exact ProjectRecord.plain_saveProject ⟨hr.named, hr.owned, hlabels.1,
    fun t ht => hlabels.2 t (Option.mem_toList.mpr ht), hr.files, hr.hash⟩

/-- What is taken everywhere once is so again, as long as the cache keeps its room. -/
theorem TakesEdits.edited {kind : NameKind} {hash : Text} {now : Timestamp} {r : ProjectRecord}
    {c : Option (Cache Cached)} (h : TakesEdits s m b) (hk : m.record = some k)
    (hspacious : ((b.keeping s r kind).withCache c).Spacious) :
    TakesEdits s { m with record := some (edited k files hash now) }
      ((b.keeping s r kind).withCache c) where
  spacious := hspacious
  fault hsaves := by
    show (b.keeping s r kind).faults _ ≠ _
    rw [Backend.keeping_faults]
    exact h.fault hsaves
  labels hsaves hreaches := by
    rintro _ ⟨⟩
    exact h.labels hsaves ((Backend.keeping_reaches ..).symm.trans hreaches) k hk

/-- A snapshot that shows files has been told of the record. -/
theorem load_of_snapshotBy (h : snapshotBy s project m b = .ok (.files files)) :
    (ensureLoaded s project).run m b = (.ok (), m.asked s project b, b) := by
  rcases run_ensureLoaded_cases s project m b with hload | ⟨-, -, e, hload⟩
  · exact hload
  · rw [snapshotBy_eq, hload] at h
    cases h

section Writing

variable {results : List EditResult} {after : FileSet}
  (hload : (ensureLoaded s project).run m b = (.ok (), m.asked s project b, b))
  (hk : (m.asked s project b).record = some k)
  (hdoes : FileEdit.DoesAll k.files edits results after)

include hload hk hdoes

/-- A batch that changes nothing answers and does no more. -/
theorem run_write_of_idle (hidle : FileEdit.Idle edits results) :
    ((write edits).routine s project).run m b =
      (.ok (.edited results), m.asked s project b, b) := by
  have hcourse : (write edits).course? s project b.clock.now (m.asked s project b) =
      some (.answer (.edited results)) := by
    obtain ⟨rfl, -⟩ := hdoes.eq_applyAll
    have hnone := FileEdit.applyAll_eq_none_iff.mpr hidle
    rw [course?, ofRecord, hk]
    dsimp only
    rw [← Prod.mk.eta (p := FileEdit.applyAll k.files edits), hnone]
  rw [run_course hload hcourse]
  rfl

/-- A batch that changes files commits a record that differs in them, in their hash and in its
time. It is remembered whatever comes of it, and the batch answers if it is taken everywhere. -/
theorem run_write_of_change (hintact : k.Intact project) (hchange : ¬FileEdit.Idle edits results) :
    ∃ hash, after.hash = .ok hash ∧
      let k' := edited k after hash b.clock.now
      ∃ o c, ((write edits).routine s project).run m b =
          (o, { m.asked s project b with record := some k' },
            (b.keeping s k' (m.asked s project b).nameKind).withCache c) ∧
        (o = .ok (.edited results) ∨ ∃ e, o = .error e) ∧
        (TakesEdits s (m.asked s project b) b → o = .ok (.edited results) ∧
          ((b.keeping s k' (m.asked s project b).nameKind).withCache c).Spacious) := by
  obtain ⟨rfl, rfl⟩ := hdoes.eq_applyAll
  obtain ⟨after, hafter⟩ :=
    Option.ne_none_iff_exists'.mp (mt FileEdit.applyAll_eq_none_iff.mp hchange)
  have hleaves : FileEdit.leavesAll edits k.files = after := by
    rw [← FileEdit.applyAll_snd_getD, hafter]
    rfl
  rw [hleaves]
  have hlegal : after.Legal := FileEdit.applyAll_legal hintact.files hafter
  obtain ⟨hash, hhash, -⟩ := FileSet.hash_of_isUtf8 hlegal.isUtf8
  have hcourse : (write edits).course? s project b.clock.now (m.asked s project b) =
      some (.commit none (edited k after hash b.clock.now) (m.asked s project b).nameKind
        fun _ => .edited (FileEdit.applyAll k.files edits).1) := by
    rw [course?, ofRecord, hk]
    dsimp only
    rw [← Prod.mk.eta (p := FileEdit.applyAll k.files edits), hafter]
    dsimp only
    rw [hhash]
    rfl
  obtain ⟨o, c, haccept, hok⟩ := run_accept_keeps s project (edited k after hash b.clock.now)
    (m.asked s project b).nameKind (m.asked s project b) b
  have hbears (h : TakesEdits s (m.asked s project b) b) :=
    h.bears hk (r := edited k after hash b.clock.now) rfl rfl
      (hintact.withFiles hlegal hhash k.name b.clock.now)
  refine ⟨hash, hhash, ?_⟩
  rw [run_course hload hcourse, Course.run_commit]
  dsimp only [Backend.offer]
  cases o with
  | ok u =>
    refine ⟨_, c, run_bind_ok _ haccept, .inl rfl, fun h => ⟨rfl, ?_⟩⟩
    exact (hok h.spacious (hbears h)).2
  | error e =>
    refine ⟨_, c, run_bind_error _ haccept, .inr ⟨e, rfl⟩, fun h => ?_⟩
    cases (hok h.spacious (hbears h)).1

end Writing

end Operation

namespace Registry

variable {r : Registry} {project : Text} {files after : FileSet} {edits : List FileEdit}
  {results : List EditResult}

/-- What the actor of a project knows of it once it has asked for the record. -/
def knownOf (r : Registry) (project : Text) : Memory :=
  (r.memoryOf project).asked r.setup project r.backend

theorem knownOf_loaded (r : Registry) (project : Text) : (r.knownOf project).loaded = true :=
  Memory.asked_loaded ..

/-- A changed record of the project is taken everywhere. -/
def TakesEdits (r : Registry) (project : Text) : Prop :=
  Operation.TakesEdits r.setup (r.knownOf project) r.backend

/-- The actor of a project can be told of its record. -/
structure Knows (r : Registry) (project : Text) (k : ProjectRecord) : Prop where
  intact : r.Intact
  ne_nil : project ≠ []
  load : (Operation.ensureLoaded r.setup project).run (r.memoryOf project) r.backend =
    (.ok (), r.knownOf project, r.backend)
  record : (r.knownOf project).record = some k

/-- A project that a snapshot shows is known with the files that are shown. -/
theorem Intact.exists_knows (h : r.Intact) (hshown : r.snapshotOf project = .ok (.files files)) :
    ∃ k, r.Knows project k ∧ k.files = files := by
  have hp : project ≠ [] := by
    rintro rfl
    cases hshown
  rw [h.addressed.snapshotOf_eq hp] at hshown
  obtain ⟨k, hk, hfiles⟩ := Operation.record_of_snapshotBy hshown
  exact ⟨k, ⟨h, hp, Operation.load_of_snapshotBy hshown, hk⟩, hfiles⟩

/-- What an actor has been told of, it need not ask for again. -/
theorem Intact.knows_of_memoryOf (h : r.Intact) (hp : project ≠ [])
    (hloaded : (r.memoryOf project).loaded = true) {k : ProjectRecord}
    (hk : (r.memoryOf project).record = some k) : r.Knows project k := by
  have hknown : r.knownOf project = r.memoryOf project := Memory.asked_of_loaded hloaded
  refine ⟨h, hp, ?_, hknown ▸ hk⟩
  rw [hknown, Operation.ensureLoaded, Routine.run_memory_bind, if_pos hloaded]
  rfl

namespace Knows

variable {k : ProjectRecord}

theorem snapshotOf_eq (h : r.Knows project k) : r.snapshotOf project = .ok (.files k.files) := by
  rw [h.intact.addressed.snapshotOf_eq h.ne_nil, Operation.snapshotBy_eq, h.load]
  dsimp only
  rw [h.record]
  rfl

theorem intact_record (h : r.Knows project k) : k.Intact project :=
  (h.intact.memoryOf project).asked h.intact.backend k h.record

section Writing

variable (h : r.Knows project k) (hdoes : FileEdit.DoesAll k.files edits results after)

include h hdoes

/-- A batch without a change leaves all as it was. -/
theorem write_of_idle (hidle : FileEdit.Idle edits results) :
    let r' := (r.perform project (.write edits)).2
    (r.perform project (.write edits)).1 = .ok (.edited results) ∧ r'.setup = r.setup ∧
      r'.memoryOf project = r.knownOf project ∧ r'.backend = r.backend := by
  obtain ⟨hanswer, hsetup, hbackend, hmemory⟩ := h.intact.addressed.perform_eq h.ne_nil rfl
    (Operation.run_write_of_idle h.load h.record hdoes hidle)
  exact ⟨hanswer, hsetup, (hmemory project).trans (if_pos rfl), hbackend⟩

/-- A batch with a change leaves a record that is changed, whatever comes of it. -/
theorem write_of_change (hchange : ¬FileEdit.Idle edits results) :
    let answer := (r.perform project (.write edits)).1
    let r' := (r.perform project (.write edits)).2
    ∃ hash c, after.hash = .ok hash ∧
      let k' := Operation.edited k after hash r.backend.clock.now
      r'.setup = r.setup ∧ r'.memoryOf project = { r.knownOf project with record := some k' } ∧
      r'.backend =
        (r.backend.keeping r.setup k' (r.knownOf project).nameKind).withCache c ∧
      (answer = .ok (.edited results) ∨ ∃ e, answer = .error e) ∧
      (r.TakesEdits project → answer = .ok (.edited results) ∧ r'.backend.Spacious) := by
  obtain ⟨hash, hhash, o, c, hrun, ho, htakes⟩ :=
    Operation.run_write_of_change h.load h.record hdoes h.intact_record hchange
  obtain ⟨hanswer, hsetup, hbackend, hmemory⟩ :=
    h.intact.addressed.perform_eq h.ne_nil rfl hrun
  refine ⟨hash, c, hhash, hsetup, (hmemory project).trans (if_pos rfl), hbackend, ?_, ?_⟩
  · rw [hanswer]
    exact ho
  · rw [hanswer, hbackend]
    exact htakes

/-- Behind a batch the project is known with the files that the batch leaves. -/
theorem write : ∃ k', (r.perform project (.write edits)).2.Knows project k' ∧ k'.files = after := by
  have hintact := (h.intact.perform project (.write edits)).1
  by_cases hidle : FileEdit.Idle edits results
  · obtain ⟨-, -, hmemory, -⟩ := h.write_of_idle hdoes hidle
    refine ⟨k, hintact.knows_of_memoryOf h.ne_nil ?_ ?_, (hdoes.eq_of_idle hidle).symm⟩
    · rw [hmemory]
      exact r.knownOf_loaded project
    · rw [hmemory]
      exact h.record
  · obtain ⟨hash, -, -, -, hmemory, -⟩ := h.write_of_change hdoes hidle
    refine ⟨_, hintact.knows_of_memoryOf h.ne_nil ?_ (congrArg Memory.record hmemory), rfl⟩
    rw [hmemory]
    exact r.knownOf_loaded project

/-- Where a changed record is taken everywhere, a batch answers, and the next one will. -/
theorem write_of_takes (htakes : r.TakesEdits project) :
    (r.perform project (.write edits)).1 = .ok (.edited results) ∧
      (r.perform project (.write edits)).2.TakesEdits project := by
  by_cases hidle : FileEdit.Idle edits results
  · obtain ⟨hanswer, hsetup, hmemory, hbackend⟩ := h.write_of_idle hdoes hidle
    refine ⟨hanswer, ?_⟩
    rw [TakesEdits, knownOf, hmemory, hbackend, hsetup,
      Memory.asked_of_loaded (r.knownOf_loaded project)]
    exact htakes
  · obtain ⟨hash, c, -, hsetup, hmemory, hbackend, -, htaken⟩ := h.write_of_change hdoes hidle
    obtain ⟨hanswer, hspacious⟩ := htaken htakes
    refine ⟨hanswer, ?_⟩
    rw [hbackend] at hspacious
    rw [TakesEdits, knownOf, hmemory, hbackend, hsetup, Memory.asked_of_loaded]
    · exact Operation.TakesEdits.edited htakes h.record hspacious
    · exact r.knownOf_loaded project

end Writing

end Knows

/-- A batch of edits on a project that a snapshot shows has one result for each edit, in their
order, and comes to what the edits do one after another. If none sets or removes a file, all stays
as it was. Otherwise the record is remembered with its new files, their hash and the time, and with
nothing else changed, and is handed to the store; the batch fails only if the record is not taken
everywhere. Where it is, a batch that is cut in two gives the same results and files. -/
theorem write_exact (hr : r.Reachable) (hshown : r.snapshotOf project = .ok (.files files))
    (edits : List FileEdit) :
    let known := r.knownOf project
    let answer := (r.perform project (.write edits)).1
    let r' := (r.perform project (.write edits)).2
    ∃ k results after, known.record = some k ∧ k.files = files ∧
      FileEdit.DoesAll files edits results after ∧
      results.map EditResult.path = edits.map FileEdit.path ∧
      r'.snapshotOf project = .ok (.files after) ∧
      (FileEdit.Idle edits results →
        answer = .ok (.edited results) ∧ r'.memoryOf project = known ∧ r'.backend = r.backend) ∧
      (¬FileEdit.Idle edits results → ∃ hash, after.hash = .ok hash ∧
        let k' := { k with files := after, filesHash := hash, updatedAt := r.backend.clock.now }
        r'.memoryOf project = { known with record := some k' } ∧
        (∃ c, r'.backend = (r.backend.keeping r.setup k' known.nameKind).withCache c) ∧
        (answer = .ok (.edited results) ∨ ¬r.TakesEdits project ∧ ∃ e, answer = .error e)) ∧
      (r.TakesEdits project → ∀ es es', edits = es ++ es' →
        let r₁ := (r.perform project (.write es)).2
        ∃ rs rs', (r.perform project (.write es)).1 = .ok (.edited rs) ∧
          (r₁.perform project (.write es')).1 = .ok (.edited rs') ∧
          answer = .ok (.edited (rs ++ rs')) ∧
          (r₁.perform project (.write es')).2.snapshotOf project = .ok (.files after)) := by
  obtain ⟨k, hk, rfl⟩ := hr.intact.exists_knows hshown
  have hdoes := FileEdit.doesAll_applyAll k.files edits
  have hsnapshot : (r.perform project (.write edits)).2.snapshotOf project =
      .ok (.files (FileEdit.leavesAll edits k.files)) := by
    obtain ⟨k', hk', hfiles⟩ := hk.write hdoes
    rw [hk'.snapshotOf_eq, hfiles]
  refine ⟨k, _, _, hk.record, rfl, hdoes, hdoes.paths_eq, hsnapshot, ?idle, ?change, ?cut⟩
  case idle =>
    intro hidle
    obtain ⟨hanswer, -, hmemory, hbackend⟩ := hk.write_of_idle hdoes hidle
    exact ⟨hanswer, hmemory, hbackend⟩
  case change =>
    intro hchange
    obtain ⟨hash, c, hhash, -, hmemory, hbackend, hanswer, htaken⟩ :=
      hk.write_of_change hdoes hchange
    refine ⟨hash, hhash, hmemory, ⟨c, hbackend⟩, ?_⟩
    by_cases htakes : r.TakesEdits project
    · exact .inl (htaken htakes).1
    · exact hanswer.imp_right fun he => ⟨htakes, he⟩
  case cut =>
    rintro htakes es es' rfl
    have hfirst := FileEdit.doesAll_applyAll k.files es
    have hsecond := FileEdit.doesAll_applyAll (FileEdit.leavesAll es k.files) es'
    obtain ⟨hanswer₁, htakes₁⟩ := hk.write_of_takes hfirst htakes
    obtain ⟨k₁, hk₁, hfiles₁⟩ := hk.write hfirst
    rw [← hfiles₁] at hsecond
    obtain ⟨hanswer₂, -⟩ := hk₁.write_of_takes hsecond htakes₁
    obtain ⟨k₂, hk₂, hfiles₂⟩ := hk₁.write hsecond
    refine ⟨_, _, hanswer₁, hanswer₂, ?_, ?_⟩
    · rw [hfiles₁, ← FileEdit.applyAll_fst_append]
      exact (hk.write_of_takes hdoes htakes).1
    · rw [hk₂.snapshotOf_eq, hfiles₂, hfiles₁, FileEdit.leavesAll_append]

theorem demoRegistry_reachable : demoRegistry.Reachable :=
  ⟨{}, none, { now := { seconds := 0 } }, [.step (.perform "p1" demoCreation)], rfl⟩

/-- A file is set and the first one removed; then the new one is read, and one that is not there is
to be removed. -/
def demoEdits : List FileEdit :=
  [⟨"b.txt", .create, some "2"⟩, ⟨"a.txt", .delete, none⟩] ++
    [⟨"b.txt", .read, none⟩, ⟨"c.txt", .delete, none⟩]

theorem demoRegistry_takesEdits : demoRegistry.TakesEdits "p1" := by
  have hlabels : ∀ k ∈ (demoRegistry.knownOf "p1").record,
      ∀ t ∈ k.name :: k.template.toList, t.isUtf8 = true := by
    decide +kernel
  have hcache : demoRegistry.backend.cache = none := by decide +kernel
  have hworks : demoRegistry.backend.Works := works_perform ⟨rfl, rfl⟩ _ _
  refine ⟨?_, fun _ => ?_, fun _ _ => hlabels⟩
  · rw [Backend.Spacious, hcache]
    exact nofun
  · rw [hworks.faults]
    exact nofun

/-- Three of four edits succeed, and the new file is left. -/
theorem write_exact_demoEdits :
    demoRegistry.Reachable ∧
      demoRegistry.snapshotOf "p1" = .ok (.files (.ofList [("a.txt", "1")])) ∧
      demoRegistry.TakesEdits "p1" ∧
      (demoRegistry.perform "p1" (.write demoEdits)).1 =
        .ok (.edited [⟨"b.txt", none, none⟩, ⟨"a.txt", none, none⟩, ⟨"b.txt", none, some "2"⟩,
          ⟨"c.txt", some .fileMissing, none⟩]) ∧
      (demoRegistry.perform "p1" (.write demoEdits)).2.snapshotOf "p1" =
        .ok (.files (.ofList [("b.txt", "2")])) := by
  have hshown : demoRegistry.snapshotOf "p1" = .ok (.files (.ofList [("a.txt", "1")])) := by
    decide +kernel
  have hresults : (FileEdit.applyAll (.ofList [("a.txt", "1")]) demoEdits).1 =
      [⟨"b.txt", none, none⟩, ⟨"a.txt", none, none⟩, ⟨"b.txt", none, some "2"⟩,
        ⟨"c.txt", some .fileMissing, none⟩] := by
    decide +kernel
  have hleaves : FileEdit.leavesAll demoEdits (.ofList [("a.txt", "1")]) =
      .ofList [("b.txt", "2")] := by
    decide +kernel
  obtain ⟨k, results, after, -, -, hdoes, -, hafter, -, hchange, -⟩ :=
    write_exact demoRegistry_reachable hshown demoEdits
  obtain ⟨rfl, rfl⟩ := hdoes.eq_applyAll
  rw [hresults] at hchange
  rw [hleaves] at hafter
  obtain ⟨_, -, -, -, hanswer⟩ := hchange (by unfold FileEdit.Idle; decide +kernel)
  exact ⟨demoRegistry_reachable, hshown, demoRegistry_takesEdits,
    hanswer.resolve_right fun h => h.1 demoRegistry_takesEdits, hafter⟩

/-- The project with another name, which its actor remembers even if the store cannot write it. -/
def renamedRegistry (name : Text) : Registry :=
  (demoRegistry.perform "p1"
    (.sync (.ofList [("a.txt", "1")]) (.text "u1") .nothing (.text name))).2

theorem renamedRegistry_reachable (name : Text) : (renamedRegistry name).Reachable :=
  ⟨{}, none, { now := { seconds := 0 } }, [.step (.perform "p1" demoCreation),
    .step (.perform "p1" (.sync (.ofList [("a.txt", "1")]) (.text "u1") .nothing (.text name)))],
    rfl⟩

/-- A project whose name cannot be written is shown, and a batch on it has no results. -/
theorem write_of_misnamed :
    let r := renamedRegistry [⟨0xD800, by decide⟩]
    r.Reachable ∧ r.snapshotOf "p1" = .ok (.files (.ofList [("a.txt", "1")])) ∧
      (r.perform "p1" (.write [⟨"a.txt", .update, some "2"⟩])).1 =
        .error (.store (.notUtf8 ⟨0, ⟨0xD800, by decide⟩, 1⟩)) := by
  refine ⟨renamedRegistry_reachable _, ?_, ?_⟩
  · decide +kernel
  · decide +kernel

end Registry

end SitePreview
