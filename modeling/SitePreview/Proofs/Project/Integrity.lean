import SitePreview.Proofs.Project.Addressing
import SitePreview.Proofs.Project.Upholding

/-! Integrity of projects: behind whatever happens to a registry, every record that an actor
remembers and every row of the store has its own project, legal files and their hash. -/

namespace SitePreview

theorem Memory.Intact.legal {project : Text} {m : Memory} (h : m.Intact project) :
    ∀ files ∈ m.record.map ProjectRecord.files, files.Legal := by
  intro files hfiles
  obtain ⟨r, hr, rfl⟩ := Option.mem_map.mp hfiles
  exact (h r hr).files

open Routine

variable {s : ProjectSetup} {project : Text}

/-- A version is recorded with the hash of the new files, whether or not the store takes it. -/
theorem Ledger.append_upholds {actor message : Given} {old : Option FileSet} {new : FileSet}
    {post : SyncResult → Prop} (hold : ∀ f ∈ old, f.Legal) (hnew : new.Legal)
    (h : ∀ d, new.hash = .ok d.hash → post d) :
    (append s project actor old new message).Upholds project post := by
  obtain ⟨d, hd⟩ := SyncResult.exists_outcome old hold hnew
  rw [append, hd.eq]
  show Upholds project post (if _ then _ else _)
  split
  · exact h _ hd.hash
  rw [upholds_bind]
  refine upholds_clock fun t => ?_
  rw [upholds_bind]
  refine upholds_checked fun v _ => ?_
  refine ⟨trivial, fun reply _ => ?_⟩
  cases reply with
  | ok _ => exact h d hd.hash
  | error e =>
    show Upholds project post (if _ then _ else _)
    split
    · exact h _ hd.hash
    · exact upholds_fail (by simp)

namespace Operation

theorem ensureLoaded_upholds {post : Unit → Prop} (h : post ()) :
    (ensureLoaded s project).Upholds project post := by
  rw [ensureLoaded, upholds_bind]
  refine upholds_memory fun m hm => ?_
  split
  · exact h
  refine ⟨hm, ?_⟩
  show Upholds project post (if _ then _ else _)
  split
  · exact h
  refine ⟨trivial, fun reply hreply => ?_⟩
  cases reply with
  | ok record => exact ⟨hreply record rfl, h⟩
  | error e =>
    show Upholds project post (if _ then _ else _)
    split
    · exact h
    · exact upholds_fail (by simp)

theorem current_upholds {post : ProjectRecord → Prop} (h : ∀ r, r.Intact project → post r) :
    (current s project).Upholds project post := by
  rw [current, upholds_bind]
  refine ensureLoaded_upholds ?_
  rw [require, upholds_bind]
  refine upholds_memory fun m hm => ?_
  split
  · next r hr => exact h r (hm r hr)
  · exact upholds_fail (by simp)

theorem persist_upholds {r : ProjectRecord} {post : Unit → Prop} (hr : r.Intact project)
    (h : post ()) : (persist s r).Upholds project post := by
  rw [persist]
  cases s.keepsProjects with
  | false => exact h
  | true =>
    exact upholds_askOr (c := .saveProject r) hr fun _ => h

theorem invalidate_upholds {post : Unit → Prop} (h : post ()) :
    (invalidate project).Upholds project post := by
  rw [invalidate, upholds_bind]
  refine upholds_cache fun c => ?_
  split
  · exact h
  · exact h

theorem store_upholds {kind : Text} {value : Cached} {post : Unit → Prop} (h : post ()) :
    (store project kind value).Upholds project post := by
  rw [store, upholds_bind]
  refine upholds_cache fun c => ?_
  split
  · exact h
  rw [upholds_bind]
  refine upholds_clock fun t => ?_
  split
  · exact upholds_fail (by simp)
  · exact h

theorem refresh_upholds {files : FileSet} {post : Summary → Prop} (h : post files.summary) :
    (refresh project files).Upholds project post := by
  rw [refresh, upholds_bind]
  refine invalidate_upholds ?_
  rw [upholds_bind]
  refine store_upholds ?_
  rw [upholds_bind]
  exact store_upholds h

theorem accept_upholds {r : ProjectRecord} {kind : NameKind} {post : Unit → Prop}
    (hr : r.Intact project) (h : post ()) : (accept s project r kind).Upholds project post := by
  have hrefresh : (discard (refresh project r.files)).Upholds project post := by
    show (refresh project r.files >>= _).Upholds project post
    rw [upholds_bind]
    exact refresh_upholds h
  rw [accept, upholds_bind]
  refine upholds_memory fun m _ => ⟨fun x hx => by cases hx; exact hr, ?_⟩
  show Upholds project post (if _ then _ else _)
  split
  · show (persist s r >>= _).Upholds project post
    rw [upholds_bind]
    exact persist_upholds hr hrefresh
  · exact hrefresh

theorem createFrom_upholds {owner name template : Given} {files : FileSet} {message : Text}
    (hfiles : files.Legal) :
    (createFrom s project owner name template files message).Upholds project fun _ => True := by
  rw [createFrom, upholds_bind]
  refine ensureLoaded_upholds ?_
  rw [upholds_bind]
  refine upholds_memory fun m _ => ?_
  split
  · exact upholds_fail (by simp)
  rw [upholds_bind]
  refine Ledger.append_upholds (by simp) hfiles fun d hd => ?_
  rw [upholds_bind]
  refine upholds_clock fun t => ?_
  rw [upholds_bind]
  refine upholds_checked fun r hr => ?_
  rw [upholds_bind]
  exact accept_upholds (ProjectRecord.intact_of_new hr hfiles hd) trivial

theorem syncTo_upholds {files : FileSet} {actor message name : Given} (hfiles : files.Legal) :
    (syncTo s project files actor message name).Upholds project fun _ => True := by
  rw [syncTo, upholds_bind]
  refine ensureLoaded_upholds ?_
  rw [upholds_bind]
  refine upholds_memory fun m hm => ?_
  rw [upholds_bind]
  refine Ledger.append_upholds hm.legal hfiles fun d hd => ?_
  rw [upholds_bind]
  refine upholds_clock fun t => ?_
  cases hr : m.record with
  | none =>
    dsimp only
    rw [upholds_bind]
    refine upholds_checked fun r hr => ?_
    rw [upholds_bind]
    exact accept_upholds (ProjectRecord.intact_of_new hr hfiles hd) trivial
  | some r =>
    dsimp only
    rw [upholds_bind]
    exact accept_upholds ((hm r hr).withFiles hfiles hd _ _) trivial

theorem applyEdits_upholds {edits : List FileEdit} :
    (applyEdits s project edits).Upholds project fun _ => True := by
  rw [applyEdits, upholds_bind]
  refine current_upholds fun r hr => ?_
  cases he : (FileEdit.applyAll r.files edits).2 with
  | none =>
    dsimp only
    rw [he]
    exact trivial
  | some files =>
    have hlegal := FileEdit.applyAll_legal hr.files he
    obtain ⟨hash, hhash, -⟩ := FileSet.hash_of_isUtf8 hlegal.isUtf8
    dsimp only
    rw [he]
    dsimp only
    rw [hhash]
    show (clock >>= _).Upholds project fun _ => True
    rw [upholds_bind]
    refine upholds_clock fun t => ?_
    rw [upholds_bind]
    refine upholds_memory fun m _ => ?_
    rw [upholds_bind]
    exact accept_upholds (hr.withFiles hlegal hhash r.name t.now) trivial

/-- Legal files can be measured. -/
theorem sizes_of_legal {files : FileSet} (h : files.Legal) :
    sizes files =
      .ok (files.sortedPaths.map fun p => (p, (files.content p).utf8Bytes.length)) := by
  have hsize : ∀ p ∈ files.sortedPaths,
      (files.content p).toUtf8.map (fun bs => (p, bs.length)) =
        .ok (p, (files.content p).utf8Bytes.length) := by
    intro p hp
    rw [Text.toUtf8_of_isUtf8 (h.isUtf8.content (FileSet.mem_sortedPaths.mp hp))]
    rfl
  rw [sizes]
  generalize files.sortedPaths = ps at hsize
  induction ps with
  | nil => rfl
  | cons p ps ih =>
    rw [List.forall_mem_cons] at hsize
    rw [List.mapM_cons, hsize.1, ih hsize.2]
    rfl

theorem statusOf_upholds : (statusOf s project).Upholds project fun _ => True := by
  rw [statusOf, upholds_bind]
  refine current_upholds fun r _ => ?_
  rw [upholds_bind]
  refine upholds_memory fun m _ => ?_
  split
  · exact trivial
  · exact upholds_fail (by simp)

theorem preview_upholds {mode : Option RenderMode} :
    (preview s project mode).Upholds project fun _ => True := by
  rw [preview, upholds_bind]
  refine current_upholds fun r _ => ?_
  rw [upholds_bind]
  refine upholds_memory fun m _ => ?_
  split
  · exact trivial
  · exact upholds_fail (by simp)

theorem listFiles_upholds :
    (listFiles.routine s project).Upholds project fun _ => True := by
  show (current s project >>= _).Upholds project fun _ => True
  rw [upholds_bind]
  refine current_upholds fun r hr => ?_
  rw [sizes_of_legal hr.files]
  exact trivial

theorem summarize_upholds : (summarize s project).Upholds project fun _ => True := by
  have hfresh : (current s project >>= fun r => refresh project r.files >>= fun known =>
      pure (Answer.summary known)).Upholds project fun _ => True := by
    rw [upholds_bind]
    refine current_upholds fun r _ => ?_
    rw [upholds_bind]
    exact refresh_upholds trivial
  rw [summarize, upholds_bind]
  refine upholds_cache fun c => ?_
  cases c with
  | none => exact hfresh
  | some c =>
    dsimp only
    rw [upholds_bind]
    refine upholds_clock fun t => ?_
    rw [upholds_setCache_bind, upholds_pure_bind]
    split
    · exact trivial
    · exact hfresh

theorem page_upholds {limit : Option PageLength} :
    (Ledger.page s project limit).Upholds project fun _ => True := by
  rw [Ledger.page]
  cases s.keepsVersions with
  | false => exact trivial
  | true =>
    refine ⟨trivial, fun reply _ => ?_⟩
    cases reply with
    | ok versions =>
      show Upholds project (fun _ => True) (if _ then _ else _)
      split
      · exact trivial
      · exact upholds_fail (by simp)
    | error e =>
      show Upholds project (fun _ => True) (if _ then _ else _)
      split
      · exact trivial
      · exact upholds_fail (by simp)

theorem purge_upholds :
    (Ledger.purge s project).Upholds project fun _ => True := by
  rw [Ledger.purge]
  cases s.keepsVersions with
  | false => exact trivial
  | true => exact upholds_askOr (c := .eraseVersions project) rfl fun _ => trivial

theorem remove_upholds : (remove s project).Upholds project fun _ => True := by
  have hrest (known stored : Bool) :
      (discard (Ledger.purge s project) >>= fun _ => invalidate project >>= fun _ =>
        memory >>= fun m => setMemory { m with record := none, nameKind := .text } >>= fun _ =>
        pure (Answer.deleted (stored || known))).Upholds project fun _ => True := by
    show ((Ledger.purge s project >>= _) >>= _).Upholds project fun _ => True
    rw [upholds_bind, upholds_bind]
    refine purge_upholds.mono fun _ _ => ?_
    show (invalidate project >>= _).Upholds project fun _ => True
    rw [upholds_bind]
    refine invalidate_upholds ?_
    rw [upholds_bind]
    exact upholds_memory fun m _ => ⟨Memory.intact_of_none rfl, trivial⟩
  rw [remove, upholds_bind]
  refine ensureLoaded_upholds ?_
  rw [upholds_bind]
  refine upholds_memory fun m _ => ?_
  cases s.keepsProjects with
  | false => exact hrest m.record.isSome false
  | true =>
    show (askOr (.eraseProject project) false >>= _).Upholds project fun _ => True
    rw [upholds_bind]
    exact upholds_askOr (c := .eraseProject project) rfl fun stored => hrest _ stored

/-- Every operation upholds the integrity of its project. -/
theorem upholds {op : Operation} (hcheck : op.check = .ok ()) :
    (op.routine s project).Upholds project fun _ => True := by
  cases op with
  | create owner name template files =>
    exact createFrom_upholds (legal_of_check hcheck rfl)
  | sync files actor message name =>
    exact syncTo_upholds (legal_of_check hcheck rfl)
  | write edits => exact applyEdits_upholds
  | content path =>
    show (current s project >>= _).Upholds project _
    rw [upholds_bind]
    exact current_upholds fun _ _ => trivial
  | listFiles => exact listFiles_upholds
  | snapshot =>
    show (current s project >>= _).Upholds project _
    rw [upholds_bind]
    exact current_upholds fun _ _ => trivial
  | status => exact statusOf_upholds
  | render mode => exact preview_upholds
  | summary => exact summarize_upholds
  | history limit =>
    show (Ledger.page s project limit >>= _).Upholds project _
    rw [upholds_bind]
    exact page_upholds.mono fun _ _ => trivial
  | delete => exact remove_upholds

end Operation

end SitePreview
