import SitePreview.Proofs.Project.Restart
import SitePreview.Proofs.Project.Undated

/-! How operations land. While the store works, an operation ends with an actor that remembers of
its project what the store has, dates apart, and this whatever others do between its calls that
leaves the row of the project alone. -/

namespace SitePreview

/-- What the actor remembers can be kept by the store, and once it has asked it is what the row
says, dates apart. -/
structure Memory.Matches (project : Text) (row : Option ProjectRecord) (m : Memory) : Prop where
  sound : m.Sound
  stored : ∀ r ∈ row, r.Storable
  own : ∀ r ∈ m.record, r.projectId = project
  same : m.loaded = true → m.record.map ProjectRecord.undated = row.map ProjectRecord.undated

theorem Memory.matches_empty {project : Text} {row : Option ProjectRecord}
    (hrow : ∀ r ∈ row, r.Storable) : ({} : Memory).Matches project row where
  sound := sound_empty
  stored := hrow
  own _ h := nomatch h
  same h := nomatch h

theorem Memory.matches_holding_none (project : Text) (m : Memory) :
    (m.holding none).Matches project none where
  sound := sound_holding fun _ h => nomatch h
  stored _ h := nomatch h
  own _ h := nomatch h
  same _ := rfl

namespace Backend

variable {b : Backend} {project : Text} {c : StoreCall}

/-- The row of the project. -/
def row? (b : Backend) (project : Text) : Option ProjectRecord :=
  b.database.projects.get? project

theorem Works.perform_eq_applied (h : b.Works) (hc : c.Plain) :
    b.perform c = (.ok (b.database.apply b.clock.now c).1, b.applied c) :=
  perform_of_reaches (h.reaches _) hc

theorem row?_perform_of_versions (hc : c.method.part = .versions) (b : Backend) (project : Text) :
    (b.perform c).2.row? project = b.row? project := by
  rcases b.perform_cases c with ⟨e, he⟩ | hok
  · rw [he]
  · rw [hok]
    cases c with
    | appendVersion | listVersions | eraseVersions => rfl
    | loadProject | saveProject | eraseProject => cases hc

/-- What is saved comes back, dates apart. -/
theorem exists_row?_saved {r : ProjectRecord} (hr : r.Storable) (b : Backend) :
    ∃ row, (b.applied (.saveProject r)).row? r.projectId = some row ∧ row.Storable ∧
      row.undated = r.undated := by
  have hfiles := ProjectTable.storedFiles_of_legal hr.files
  have hrow : (b.applied (.saveProject r)).row? r.projectId = some _ :=
    (ProjectTable.get?_save ..).trans (if_pos rfl)
  refine ⟨_, hrow, ?_⟩
  cases b.database.projects.get? r.projectId with
  | none =>
    refine ⟨ProjectTable.storable_newRow hr _, ?_⟩
    simp only [ProjectTable.newRow, hfiles]
    rfl
  | some row =>
    refine ⟨ProjectTable.storable_updatedRow hr _ row, ?_⟩
    simp only [ProjectTable.updatedRow, hfiles]
    rfl

end Backend

namespace Routine

variable {α β : Type} {project : Text} {row : Option ProjectRecord} {m : Memory} {b : Backend}
  {post : α → Memory → Option ProjectRecord → Prop}

/-- The routine of the project ends as described, or fails with a memory that matches the row. From
one of its calls to the next, all may change but the row of the project, while the store works. -/
def Lands (project : Text) (post : α → Memory → Option ProjectRecord → Prop) (m : Memory)
    (row : Option ProjectRecord) : Routine α → Prop
  | done a => post a m row
  | fail _ => m.Matches project row
  | call c next => ∀ b : Backend, b.Works → b.row? project = row →
    (next (b.perform c).1).Lands project post m ((b.perform c).2.row? project)
  | look next => ∀ c t, (next m c t).Lands project post m row
  | remember m next => next.Lands project post m row
  | recache _ next => next.Lands project post m row

/-- The routine ends with a memory that matches the row. -/
def LandsMatched (project : Text) (m : Memory) (row : Option ProjectRecord) (r : Routine α) :
    Prop := r.Lands project (fun _ m row => m.Matches project row) m row

theorem lands_bind (r : Routine α) (f : α → Routine β)
    (post : β → Memory → Option ProjectRecord → Prop) :
    (r >>= f).Lands project post m row ↔
      r.Lands project (fun a m row => (f a).Lands project post m row) m row := by
  show (r.bind f).Lands project post m row ↔ _
  induction r generalizing m row with
  | done a => exact .rfl
  | fail e => exact .rfl
  | call c next ih =>
    exact forall_congr' fun b => forall_congr' fun _ => forall_congr' fun _ => ih _
  | look next ih => exact forall₂_congr fun c t => ih m c t
  | remember m next ih => exact ih
  | recache c next ih => exact ih

theorem settle_backend (r : Routine α) (m : Memory) (b : Backend) :
    ∃ c, (r.settle m b).2.2 = b.withCache c := by
  induction r generalizing m b with
  | done | fail | call => exact ⟨b.cache, rfl⟩
  | look next ih => exact ih _ _ _ m b
  | remember m' next ih => exact ih m' b
  | recache c next ih => exact ih m { b with cache := c }

/-- Up to its next call, the routine is still one that lands. -/
theorem Lands.settle {r : Routine α} (h : r.Lands project post m row) (b : Backend) :
    (r.settle m b).1.Lands project post (r.settle m b).2.1 row := by
  induction r generalizing m b with
  | done | fail | call => exact h
  | look next ih => exact ih _ _ _ (h _ _) b
  | remember m next ih => exact ih h b
  | recache c next ih => exact ih h { b with cache := c }

/-- A routine that is settled and makes no call has landed. -/
theorem LandsMatched.matches_of_ended {r : Routine α} (h : r.LandsMatched project m row)
    (hended : (r.settle m b).1.pending? = none) : (r.settle m b).2.1.Matches project row := by
  induction r generalizing m b with
  | done | fail => exact h
  | call => cases hended
  | look next ih => exact ih _ _ _ (h _ _) hended
  | remember m next ih => exact ih h hended
  | recache c next ih => exact ih h hended

theorem lands_pure_bind (a : α) (f : α → Routine β)
    (post : β → Memory → Option ProjectRecord → Prop) :
    (pure a >>= f).Lands project post m row ↔ (f a).Lands project post m row := .rfl

theorem lands_setCache_bind (c : Option (Cache Cached)) (f : Unit → Routine β)
    (post : β → Memory → Option ProjectRecord → Prop) :
    (setCache c >>= f).Lands project post m row ↔ (f ()).Lands project post m row := .rfl

theorem lands_memory {post : Memory → Memory → Option ProjectRecord → Prop} (h : post m m row) :
    memory.Lands project post m row := fun _ _ => h

theorem lands_cache {post : Option (Cache Cached) → Memory → Option ProjectRecord → Prop}
    (h : ∀ c, post c m row) : cache.Lands project post m row := fun c _ => h c

theorem lands_clock {post : Clock → Memory → Option ProjectRecord → Prop}
    (h : ∀ t, post t m row) : clock.Lands project post m row := fun _ t => h t

theorem lands_checked {kind : RecordKind} {c : Checked α} (hm : m.Matches project row)
    (h : ∀ a, c = .ok a → post a m row) : (checked kind c).Lands project post m row := by
  cases c with
  | ok a => exact h a rfl
  | bad is => exact hm

theorem lands_written {w : Except Text.EncodeError α} (hm : m.Matches project row)
    (h : ∀ a, w = .ok a → post a m row) : (written w).Lands project post m row := by
  cases w with
  | ok a => exact h a rfl
  | error e => exact hm

/-- A call that a working store takes is answered. -/
theorem lands_askOr {c : StoreCall} {whenOut : c.Reply} {post : c.Reply → Memory →
    Option ProjectRecord → Prop} (hc : c.Plain)
    (h : ∀ reply, ∀ b : Backend, b.row? project = row →
      post reply m ((b.applied c).row? project)) :
    (askOr c whenOut).Lands project post m row := by
  intro b hb hrow
  rw [hb.perform_eq_applied hc]
  exact h _ b hrow

end Routine

open Routine

variable {s : ProjectSetup} {project : Text} {row : Option ProjectRecord} {m : Memory}

/-- A version is offered to the ledger without a change of memory or row. -/
theorem Ledger.append_lands {actor message : Given} {old : Option FileSet} {new : FileSet}
    {post : SyncResult → Memory → Option ProjectRecord → Prop} (hm : m.Matches project row)
    (h : ∀ d, new.hash = .ok d.hash → post d m row) :
    (append s project actor old new message).Lands project post m row := by
  rw [append, lands_bind]
  refine lands_written hm fun d hd => ?_
  have hhash := (SyncResult.between_eq_ok.mp hd).1
  split
  · exact h _ hhash
  rw [lands_bind]
  refine lands_clock fun t => ?_
  rw [lands_bind]
  refine lands_checked hm fun v _ b _ hrow => ?_
  rw [Backend.row?_perform_of_versions rfl, hrow]
  cases (b.perform (.appendVersion v)).1 with
  | ok _ => exact h _ hhash
  | error e =>
    show Lands project post m row (if _ then _ else _)
    split
    · exact h _ hhash
    · exact hm

theorem Ledger.page_lands {limit : Option PageLength} (hm : m.Matches project row) :
    (page s project limit).Lands project (fun _ m row => m.Matches project row) m row := by
  rw [page]
  cases s.keepsVersions with
  | false => exact hm
  | true =>
    intro b _ hrow
    rw [Backend.row?_perform_of_versions rfl, hrow]
    cases (b.perform (.listVersions project (s.limits.effective limit))).1 with
    | ok versions =>
      show Lands project _ m row (if _ then _ else _)
      split
      · exact hm
      · exact hm
    | error e =>
      show Lands project _ m row (if _ then _ else _)
      split
      · exact hm
      · exact hm

theorem Ledger.purge_lands {post : Nat → Memory → Option ProjectRecord → Prop}
    (hpu : project.isUtf8 = true) (h : ∀ n, post n m row) :
    (purge s project).Lands project post m row := by
  rw [purge]
  cases s.keepsVersions with
  | false => exact h 0
  | true =>
    refine lands_askOr (c := .eraseVersions project)
      (StoreCall.plain_of_texts rfl hpu) fun n b hrow => ?_
    rw [show (b.applied (.eraseVersions project)).row? project = row from hrow]
    exact h n

namespace Operation

/-- Once it has asked, the actor remembers the row. -/
theorem ensureLoaded_lands {post : Unit → Memory → Option ProjectRecord → Prop}
    (hs : s.keepsProjects = true) (hpu : project.isUtf8 = true) (hm : m.Matches project row)
    (h : ∀ m, m.Matches project row → m.loaded = true → post () m row) :
    (ensureLoaded s project).Lands project post m row := by
  rw [ensureLoaded, lands_bind]
  refine lands_memory ?_
  split
  · next hl => exact h m hm hl
  show Lands project post { m with loaded := true } row (if _ then _ else _)
  rw [hs]
  intro b hb hrow
  rw [hb.perform_eq_applied (StoreCall.plain_of_texts rfl hpu)]
  subst hrow
  refine h _ ⟨⟨hm.stored, hm.sound.nameKind⟩, hm.stored, fun r hr => ?_, fun _ => rfl⟩ rfl
  exact ProjectTable.projectId_of_get? hr

theorem current_lands {post : ProjectRecord → Memory → Option ProjectRecord → Prop}
    (hs : s.keepsProjects = true) (hpu : project.isUtf8 = true) (hm : m.Matches project row)
    (h : ∀ m r, m.Matches project row → m.record = some r → post r m row) :
    (current s project).Lands project post m row := by
  rw [current, lands_bind]
  refine ensureLoaded_lands hs hpu hm fun m hm _ => ?_
  rw [require, lands_bind]
  refine lands_memory ?_
  split
  · next r hr => exact h m r hm hr
  · exact hm

theorem invalidate_lands {post : Unit → Memory → Option ProjectRecord → Prop} (h : post () m row) :
    (invalidate project).Lands project post m row := by
  rw [invalidate, lands_bind]
  refine lands_cache fun c => ?_
  split
  · exact h
  · exact h

theorem store_lands {kind : Text} {value : Cached}
    {post : Unit → Memory → Option ProjectRecord → Prop} (hm : m.Matches project row)
    (h : post () m row) : (store project kind value).Lands project post m row := by
  rw [store, lands_bind]
  refine lands_cache fun c => ?_
  split
  · exact h
  rw [lands_bind]
  refine lands_clock fun t => ?_
  split
  · exact hm
  · exact h

theorem refresh_lands {files : FileSet} {post : Summary → Memory → Option ProjectRecord → Prop}
    (hm : m.Matches project row) (h : post files.summary m row) :
    (refresh project files).Lands project post m row := by
  rw [refresh, lands_bind]
  refine invalidate_lands ?_
  rw [lands_bind]
  refine store_lands hm ?_
  rw [lands_bind]
  exact store_lands hm h

/-- A record that the store can keep is remembered and saved. -/
theorem accept_lands {r : ProjectRecord} {kind : NameKind}
    {post : Unit → Memory → Option ProjectRecord → Prop} (hs : s.keepsProjects = true)
    (hr : r.Storable) (hp : r.projectId = project) (hkind : kind = .text)
    (h : ∀ m row, m.Matches project row → post () m row) :
    (accept s project r kind).Lands project post m row := by
  subst hkind
  rw [accept, lands_bind]
  refine lands_memory ?_
  show Lands project post { m with record := some r, nameKind := .text } row
    (persist s r >>= fun _ => discard (refresh project r.files))
  rw [lands_bind, persist, hs]
  refine lands_askOr (c := .saveProject r) (ProjectRecord.plain_saveProject hr) fun _ b _ => ?_
  obtain ⟨row', hrow', hstorable, hundated⟩ := b.exists_row?_saved hr
  rw [hp] at hrow'
  rw [hrow']
  have hm : Memory.Matches project (some row') { m with record := some r, nameKind := .text } := by
    refine ⟨⟨fun x hx => ?_, rfl⟩, fun x hx => ?_, fun x hx => ?_, fun _ => ?_⟩
    · rw [← Option.some.inj hx]
      exact hr
    · rw [← Option.some.inj hx]
      exact hstorable
    · rw [← Option.some.inj hx]
      exact hp
    · exact congrArg some hundated.symm
  show Lands project post _ _ (refresh project r.files >>= _)
  rw [lands_bind]
  exact refresh_lands hm (h _ _ hm)

variable {owner actor message name template : Given} {files : FileSet}

theorem createFrom_lands {message : Text} (hs : s.keepsProjects = true)
    (hpu : project.isUtf8 = true) (hm : m.Matches project row) (hname : name.Written)
    (htemplate : template.WrittenOrNothing) (hfiles : files.Legal) :
    (createFrom s project owner name template files message).LandsMatched project m row := by
  rw [Routine.LandsMatched, createFrom, lands_bind]
  refine ensureLoaded_lands hs hpu hm fun m hm _ => ?_
  rw [lands_bind]
  refine lands_memory ?_
  split
  · exact hm
  rw [lands_bind]
  refine Ledger.append_lands hm fun d hd => ?_
  rw [lands_bind]
  refine lands_clock fun t => ?_
  rw [lands_bind]
  refine lands_checked hm fun r hr => ?_
  rw [lands_bind]
  have hnew : newRecord t.now project owner name template files d = .ok (r, .text) := by
    rw [newRecord, hr]
  refine accept_lands hs (storable_of_newRecord hnew (fun _ => hname) htemplate hfiles hd)
    (ProjectRecord.intact_of_new hr hfiles hd).project rfl fun m row hm => hm

theorem syncTo_lands (hs : s.keepsProjects = true) (hpu : project.isUtf8 = true)
    (hm : m.Matches project row) (hname : name.WrittenOrNothing) (hfiles : files.Legal) :
    (syncTo s project files actor message name).LandsMatched project m row := by
  obtain ⟨name, hname, rfl⟩ := hname
  rw [Routine.LandsMatched, syncTo, lands_bind]
  refine ensureLoaded_lands hs hpu hm fun m hm _ => ?_
  rw [lands_bind]
  refine lands_memory ?_
  rw [lands_bind]
  refine Ledger.append_lands hm fun d hd => ?_
  rw [lands_bind]
  refine lands_clock fun t => ?_
  cases hr : m.record with
  | none =>
    dsimp only
    rw [nameOrProject, lands_bind]
    refine lands_checked hm fun r hr => ?_
    rw [lands_bind]
    have hnew : newRecord t.now project actor (.text (namedOr project name)) .nothing files d =
        .ok (r, .text) := by
      rw [newRecord, hr]
    have hnamed := Given.written_text.mpr (isUtf8_namedOr hpu hname)
    exact accept_lands hs
      (storable_of_newRecord hnew (fun _ => hnamed) ⟨none, by simp, rfl⟩ hfiles hd)
      (ProjectRecord.intact_of_new hr hfiles hd).project rfl fun m row hm => hm
  | some r =>
    have hstorable := hm.sound.record r hr
    dsimp only
    rw [hm.sound.nameKind, newName?_getD, lands_bind]
    exact accept_lands hs ⟨hstorable.project, hstorable.owner, isUtf8_namedOr hstorable.name hname,
      hstorable.template, hfiles, hd⟩ (hm.own r hr) rfl fun m row hm => hm

theorem applyEdits_lands {edits : List FileEdit} (hs : s.keepsProjects = true)
    (hpu : project.isUtf8 = true) (hm : m.Matches project row) :
    (applyEdits s project edits).LandsMatched project m row := by
  rw [Routine.LandsMatched, applyEdits, lands_bind]
  refine current_lands hs hpu hm fun m r hm hr => ?_
  have hstorable := hm.sound.record r hr
  cases he : (FileEdit.applyAll r.files edits).2 with
  | none =>
    dsimp only
    rw [he]
    exact hm
  | some files =>
    dsimp only
    rw [he]
    dsimp only
    rw [lands_bind]
    refine lands_written hm fun hash hhash => ?_
    rw [lands_bind]
    refine lands_clock fun t => ?_
    rw [lands_bind]
    refine lands_memory ?_
    rw [lands_bind]
    exact accept_lands hs ⟨hstorable.project, hstorable.owner, hstorable.name, hstorable.template,
      FileEdit.applyAll_legal hstorable.files he, hhash⟩ (hm.own r hr) hm.sound.nameKind
      fun m row hm => hm

theorem summarize_lands (hs : s.keepsProjects = true) (hpu : project.isUtf8 = true)
    (hm : m.Matches project row) : (summarize s project).LandsMatched project m row := by
  have hfresh : (current s project >>= fun r => refresh project r.files >>= fun known =>
      pure (Answer.summary known)).LandsMatched project m row := by
    rw [Routine.LandsMatched, lands_bind]
    refine current_lands hs hpu hm fun m r hm _ => ?_
    rw [lands_bind]
    exact refresh_lands hm hm
  rw [Routine.LandsMatched, summarize, lands_bind]
  refine lands_cache fun c => ?_
  cases c with
  | none => exact hfresh
  | some c =>
    dsimp only
    rw [lands_bind]
    refine lands_clock fun t => ?_
    rw [lands_setCache_bind, lands_pure_bind]
    split
    · exact hm
    · exact hfresh

theorem remove_lands (hs : s.keepsProjects = true) (hpu : project.isUtf8 = true)
    (hm : m.Matches project row) : (remove s project).LandsMatched project m row := by
  rw [Routine.LandsMatched, remove, lands_bind]
  refine ensureLoaded_lands hs hpu hm fun m _ _ => ?_
  rw [lands_bind]
  refine lands_memory ?_
  rw [hs]
  show Lands project _ m row (askOr (.eraseProject project) false >>= _)
  rw [lands_bind]
  refine lands_askOr (c := .eraseProject project)
    (StoreCall.plain_of_texts rfl hpu) fun stored b _ => ?_
  have herased : (b.applied (.eraseProject project)).row? project = none :=
    (ProjectTable.get?_erase ..).trans (if_pos rfl)
  rw [herased]
  -- the memory does not match the row again before its record is dropped, but nothing fails
  show Lands project _ m none ((Ledger.purge s project >>= _) >>= _)
  rw [lands_bind, lands_bind]
  refine Ledger.purge_lands hpu fun n => ?_
  show Lands project _ m none (invalidate project >>= _)
  rw [lands_bind]
  refine invalidate_lands ?_
  rw [lands_bind]
  refine lands_memory ?_
  exact m.matches_holding_none project

/-- An operation on the project whose texts can be written lands with a memory that matches the
row. -/
theorem routine_lands {op : Operation} (hs : s.keepsProjects = true) (hpu : project.isUtf8 = true)
    (hop : op.Plain) (hcheck : op.check = .ok ()) (hm : m.Matches project row) :
    (op.routine s project).LandsMatched project m row := by
  have hcurrent {f : ProjectRecord → Routine Answer}
      (h : ∀ m r, m.Matches project row → (f r).LandsMatched project m row) :
      (current s project >>= f).LandsMatched project m row := by
    rw [Routine.LandsMatched, lands_bind]
    exact current_lands hs hpu hm fun m r hm _ => h m r hm
  cases op with
  | create owner name template files =>
    obtain ⟨-, hname, htemplate⟩ := hop
    obtain ⟨created, t, message, hstart, ht, -⟩ := start_written htemplate files
    have hlegal : created.Legal := legal_of_check hcheck (by rw [newFiles?, hstart])
    rw [routine, hstart]
    exact createFrom_lands hs hpu hm hname (Given.writtenOrNothing_ofText?.mpr ht) hlegal
  | sync files actor message name =>
    exact syncTo_lands hs hpu hm hop.2.2 (legal_of_check hcheck rfl)
  | write edits => exact applyEdits_lands hs hpu hm
  | content path => exact hcurrent fun m r hm => hm
  | snapshot => exact hcurrent fun m r hm => hm
  | listFiles =>
    refine hcurrent fun m r hm => ?_
    rw [Routine.LandsMatched, lands_bind]
    exact lands_written hm fun _ _ => hm
  | status | render =>
    refine hcurrent fun m r hm => ?_
    rw [Routine.LandsMatched, lands_bind]
    refine lands_memory ?_
    split
    · exact hm
    · exact hm
  | summary => exact summarize_lands hs hpu hm
  | history limit =>
    rw [Routine.LandsMatched, routine, lands_bind]
    exact Ledger.page_lands hm
  | delete => exact remove_lands hs hpu hm

end Operation

namespace Actor

variable {a : Actor} {b : Backend}

/-- The messages of the actor land, and while there is none under way its memory matches the row. -/
structure Serves (project : Text) (row : Option ProjectRecord) (a : Actor) : Prop where
  queue : ∀ job ∈ a.queue, ∀ m row, m.Matches project row →
    job.routine.LandsMatched project m row
  idle : a.current = none → a.memory.Matches project row
  busy : ∀ job ∈ a.current, job.routine.LandsMatched project a.memory row

theorem serves_of_idle (hm : a.memory.Matches project row) (hqueue : a.queue = [])
    (hcurrent : a.current = none) : a.Serves project row where
  queue := by simp [hqueue]
  idle _ := hm
  busy := by simp [hcurrent]

theorem serves_of_busy {job : Job} (hcurrent : a.current = some job)
    (hjob : job.routine.LandsMatched project a.memory row)
    (hqueue : ∀ job ∈ a.queue, ∀ m row, m.Matches project row →
      job.routine.LandsMatched project m row) : a.Serves project row where
  queue := hqueue
  idle := by simp [hcurrent]
  busy x hx := by
    rw [hcurrent] at hx
    rw [← Option.some.inj hx]
    exact hjob

theorem takeJobs_backend (a : Actor) (b : Backend) (jobs : List Job) :
    ∃ c, (a.takeJobs b jobs).2.1 = b.withCache c := by
  induction jobs generalizing a b with
  | nil => exact ⟨b.cache, rfl⟩
  | cons job jobs ih =>
    rw [takeJobs]
    split
    · exact ih a b
    obtain ⟨c, hb⟩ := job.routine.settle_backend a.memory b
    dsimp only
    split
    · exact ⟨c, hb⟩
    · obtain ⟨c', hb'⟩ := ih { a with memory := (job.routine.settle a.memory b).2.1 }
        (job.routine.settle a.memory b).2.2
      exact ⟨c', hb'.trans (by rw [hb]; rfl)⟩

theorem takeJobs_serves {jobs : List Job} (hm : a.memory.Matches project row)
    (hjobs : ∀ job ∈ jobs, ∀ m row, m.Matches project row →
      job.routine.LandsMatched project m row) :
    (a.takeJobs b jobs).1.Serves project row := by
  induction jobs generalizing a b with
  | nil => exact serves_of_idle hm rfl rfl
  | cons job jobs ih =>
    rw [List.forall_mem_cons] at hjobs
    rw [takeJobs]
    split
    · exact ih hm hjobs.2
    have hlands := hjobs.1 a.memory row hm
    dsimp only
    split
    · exact serves_of_busy rfl (hlands.settle b) hjobs.2
    · next hended => exact ih (hlands.matches_of_ended hended) hjobs.2

theorem resume_backend {r : Routine Answer} {post : Answer → Prop} (hr : r.Upholds project post)
    (m : Memory) (b : Backend) : b.Frames project (resume m b r).2.2 := by
  have hsettle (r : Routine Answer) (m : Memory) (b : Backend) :
      b.Frames project (r.settle m b).2.2 := by
    obtain ⟨c, hb⟩ := r.settle_backend m b
    rw [hb]
    exact b.frames_withCache c
  cases r with
  | call c next => exact (Backend.frames_perform hr.1 b).trans (hsettle ..)
  | done | fail | look | remember | recache => exact hsettle ..

theorem resume_lands {r : Routine Answer} {m : Memory}
    (hr : r.LandsMatched project m (b.row? project)) (hb : b.Works) :
    (resume m b r).1.LandsMatched project (resume m b r).2.1 ((resume m b r).2.2.row? project) ∧
      ((resume m b r).1.pending? = none →
        (resume m b r).2.1.Matches project ((resume m b r).2.2.row? project)) := by
  have hsettle {r : Routine Answer} {m : Memory} {b : Backend}
      (hr : r.LandsMatched project m (b.row? project)) :
      (r.settle m b).1.LandsMatched project (r.settle m b).2.1 ((r.settle m b).2.2.row? project) ∧
        ((r.settle m b).1.pending? = none →
          (r.settle m b).2.1.Matches project ((r.settle m b).2.2.row? project)) := by
    obtain ⟨c, hc⟩ := r.settle_backend m b
    rw [hc]
    exact ⟨hr.settle b, fun hended => hr.matches_of_ended hended⟩
  cases r with
  | call c next => exact hsettle (hr b hb rfl)
  | done | fail | look | remember | recache => exact hsettle hr

/-- A turn changes nothing of other projects but the cache. -/
theorem Intact.frames_turn (h : a.Intact) (b : Backend) :
    b.Frames a.project (a.turn b).2.1 := by
  have htake (a : Actor) (b : Backend) (jobs : List Job) (project : Text) :
      b.Frames project (a.takeJobs b jobs).2.1 := by
    obtain ⟨c, hb⟩ := a.takeJobs_backend b jobs
    rw [hb]
    exact b.frames_withCache c
  rw [Actor.turn]
  cases hc : a.current with
  | none => exact htake ..
  | some job =>
    have hresume := resume_backend (h.jobs job (by simp [hc])) a.memory b
    dsimp only
    split
    · exact hresume
    · exact hresume.trans (htake ..)

/-- Behind a turn of an actor that serves its project, it still does. -/
theorem Serves.turn (h : a.Serves project (b.row? project)) (hb : b.Works) :
    (a.turn b).1.Serves project ((a.turn b).2.1.row? project) := by
  have htake {a : Actor} {b : Backend} {jobs : List Job}
      (hm : a.memory.Matches project (b.row? project))
      (hjobs : ∀ job ∈ jobs, ∀ m row, m.Matches project row →
        job.routine.LandsMatched project m row) :
      (a.takeJobs b jobs).1.Serves project ((a.takeJobs b jobs).2.1.row? project) := by
    obtain ⟨c, hc⟩ := a.takeJobs_backend b jobs
    rw [hc]
    exact takeJobs_serves hm hjobs
  rw [Actor.turn]
  cases hc : a.current with
  | none => exact htake (h.idle hc) h.queue
  | some job =>
    obtain ⟨hlands, hended⟩ := resume_lands (h.busy job hc) hb
    dsimp only
    split
    · exact serves_of_busy rfl hlands h.queue
    · next hpending =>
      exact htake
        (a := { a with memory := (resume a.memory b job.routine).2.1, current := some job })
        (hended hpending) h.queue

end Actor

end SitePreview
