import SitePreview.Proofs.Project.Restart

/-! Failures. While the store works, an operation whose texts are texts and that fails has changed
nothing, unless it had committed already: the version of a record is written and the record
remembered before the table of projects refuses a name or template that UTF-8 cannot write, or a
cache without room refuses the files. -/

namespace SitePreview

namespace Backend

variable {b : Backend}

/-- A store that works refuses nothing but texts that UTF-8 cannot write. -/
theorem Works.perform_eq (h : b.Works) (c : StoreCall) :
    b.perform c = match Database.encodeError? c with
      | some x => (.error (.notUtf8 x), b)
      | none => (.ok (b.database.apply b.clock.now c).1, b.applied c) :=
  perform_eq_of_reaches (h.reaches _)

theorem Works.perform_of_not_isUtf8 (h : b.Works) {c : StoreCall} {t : Text}
    (ht : t ∈ c.plainTexts) (hu : t.isUtf8 = false) :
    ∃ x, b.perform c = (.error (.notUtf8 x), b) := by
  rw [h.perform_eq]
  cases hx : Database.encodeError? c with
  | some x => exact ⟨x, rfl⟩
  | none =>
    have hnone := List.findSome?_eq_none_iff.mp hx t ht
    rw [Text.encodeErrorFrom?_eq_none_iff, hu] at hnone
    cases hnone

theorem Works.applied (h : b.Works) (c : StoreCall) : (b.applied c).Works := by
  refine ⟨?_, h.faults⟩
  rw [← h.tables]
  cases c <;> rfl

theorem Works.perform (h : b.Works) (c : StoreCall) : (b.perform c).2.Works := by
  rw [h.perform_eq]
  split
  · exact h
  · exact h.applied c

theorem Works.run {α : Type} (h : b.Works) (r : Routine α) (m : Memory) :
    (r.run m b).2.2.Works := by
  induction r generalizing m b with
  | done | fail => exact h
  | call c next ih => exact ih _ (h.perform c) m
  | look next ih => exact ih _ _ _ h m
  | remember m' next ih => exact ih h m'
  | recache c next ih => exact ih (b := { b with cache := c }) ⟨h.tables, h.faults⟩ m

/-- A store that works takes a version that is offered, or leaves all as it was. -/
theorem Works.offer_cases (h : b.Works) (v : Option VersionRecord) :
    (∃ recorded, b.offer v = (.ok recorded, b.offered v)) ∨
      ∃ x, b.offer v = (.error (.store (.notUtf8 x)), b) := by
  cases v with
  | none => exact .inl ⟨false, rfl⟩
  | some v =>
    rw [offer, h.perform_eq, offered, h.reaches]
    cases Database.encodeError? (.appendVersion v) with
    | some x => exact .inr ⟨x, rfl⟩
    | none => exact .inl ⟨true, rfl⟩

theorem Works.offered (h : b.Works) (v : Option VersionRecord) : (b.offered v).Works := by
  cases v with
  | none => exact h
  | some v =>
    rw [Backend.offered, h.reaches]
    exact h.applied _

/-- A record that is remembered is not taken everywhere: the table of projects refuses its name or
template, or the cache has no room for its files. This is the error then, and the database. -/
inductive Refuses (b : Backend) (s : ProjectSetup) (r : ProjectRecord) (kind : NameKind) :
    ProjectError → Database → Prop
  | unsaved {t : Text} {x : Text.EncodeError} (hs : s.keepsProjects = true)
      (hkind : kind ≠ .compound) (ht : t ∈ r.name :: r.template.toList)
      (hx : Text.encodeErrorFrom? 0 t = some x) :
    Refuses b s r kind (.store (.notUtf8 x)) b.database
  | uncached (hfull : ¬b.Roomy) :
    Refuses b s r kind .noRoom (if kind = .compound then b else b.saved s r).database

end Backend

/-- What snapshots and states show of what an actor remembers: the files of its record, and the
state if the name is a text. -/
def Memory.shown (m : Memory) : Option Answer × Option Answer :=
  (m.record.map fun r => .files r.files,
    if m.nameKind = .text then m.record.map fun r => .status r.status else none)

theorem Memory.Intact.shown_of_not_isUtf8 {project : Text} {m : Memory} (h : m.Intact project)
    (hpu : project.isUtf8 = false) : m.shown = (none, none) := by
  have hr : m.record = none := by
    cases hr : m.record with
    | none => rfl
    | some r =>
      have hintact := h r hr
      rw [← hintact.project, hintact.named] at hpu
      cases hpu
  rw [shown, hr]
  split <;> rfl

namespace Operation

open Routine

variable {s : ProjectSetup} {project : Text} {m m' : Memory} {b b' : Backend} {op : Operation}
  {e : ProjectError}

/-- A store that works tells the actor of its record, unless the name of the project cannot be
written. -/
theorem run_ensureLoaded_of_works (hb : b.Works) (s : ProjectSetup) (project : Text) (m : Memory) :
    (ensureLoaded s project).run m b = (.ok (), m.asked s project b, b) ∨
      project.isUtf8 = false ∧ ∃ e,
        (ensureLoaded s project).run m b = (.error e, { m with loaded := true }, b) :=
  (run_ensureLoaded_cases s project m b).imp_right fun ⟨_, hpu, h⟩ => ⟨hpu (hb.reaches _), h⟩

/-- Snapshots and states show what the actor remembers once it has asked for its record. -/
theorem run_shown (hb : b.Works) (hintact : b.Intact) (hm : m.Intact project) :
    (((snapshot.routine s project).run m b).1.toOption,
        ((status.routine s project).run m b).1.toOption) = (m.asked s project b).shown := by
  have hload := run_ensureLoaded_of_works hb s project m
  rcases hload with hload | ⟨hpu, e, hload⟩
  · rw [run_course hload rfl, run_course hload rfl, Memory.shown, ofRecord, ofRecord]
    generalize m.asked s project b = known
    cases known.record with
    | none => exact congrArg (Prod.mk none) (ite_self none).symm
    | some r =>
      refine congrArg (Prod.mk _) ?_
      dsimp only
      split <;> rfl
  · have hsnapshot : (snapshot.routine s project).run m b =
        (.error e, { m with loaded := true }, b) := run_of_load_error hload rfl
    have hstatus : (status.routine s project).run m b =
        (.error e, { m with loaded := true }, b) := run_of_load_error hload rfl
    rw [hsnapshot, hstatus, (hm.asked hintact).shown_of_not_isUtf8 hpu]
    rfl

/-- A store that works takes the record of a project, or its name or template cannot be written. -/
theorem run_persist_of_works (hb : b.Works) {r : ProjectRecord} (hr : r.Intact project) :
    (persist s r).run m b = (.ok (), m, b.saved s r) ∨
      s.keepsProjects = true ∧ ∃ t ∈ r.name :: r.template.toList, ∃ x,
        Text.encodeErrorFrom? 0 t = some x ∧
        (persist s r).run m b = (.error (.store (.notUtf8 x)), m, b) := by
  rw [persist, Backend.saved, hb.reaches]
  cases s.keepsProjects with
  | false => exact .inl rfl
  | true =>
    have hcall := hb.perform_eq (.saveProject r)
    cases hx : Database.encodeError? (.saveProject r) with
    | none =>
      rw [hx] at hcall
      exact .inl (run_askOr_ok (c := .saveProject r) _ hcall)
    | some x =>
      rw [hx] at hcall
      -- of the texts of an intact record only name and template can have stood in the way
      obtain ⟨t, ht, hx⟩ := List.exists_of_findSome?_eq_some hx
      refine .inr ⟨rfl, t, ?_, x, hx, run_askOr_notUtf8 (c := .saveProject r) _ hcall⟩
      have hbad : t.isUtf8 ≠ true := by
        rw [Ne, ← Text.encodeErrorFrom?_eq_none_iff, hx]
        simp
      simp only [StoreCall.plainTexts, List.mem_append, List.mem_cons, List.not_mem_nil, or_false]
        at ht
      rcases ht with ((rfl | rfl | rfl) | ht) | rfl
      · exact absurd hr.named hbad
      · exact absurd hr.owned hbad
      · exact List.mem_cons_self
      · exact List.mem_cons_of_mem _ ht
      · exact absurd (ProjectRecord.isUtf8_filesHash hr.files hr.hash) hbad

/-- A record that is accepted is remembered, also where it is not taken everywhere. -/
theorem run_accept_of_works (hb : b.Works) {r : ProjectRecord} (hr : r.Intact project)
    (kind : NameKind) :
    (∃ b', (accept s project r kind).run m b =
        (.ok (), { m with record := some r, nameKind := kind }, b')) ∨
      ∃ e b', (accept s project r kind).run m b =
        (.error e, { m with record := some r, nameKind := kind }, b') ∧
          b.Refuses s r kind e b'.database := by
  rw [accept, run_memory_bind, run_setMemory_bind]
  generalize { m with record := some r, nameKind := kind } = known
  -- behind the table of projects, the cache is all that is left
  have hrest {b₁ : Backend} (hroomy : b₁.Roomy ↔ b.Roomy)
      (hdb : b₁.database = (if kind = .compound then b else b.saved s r).database) :
      (∃ b', (discard (refresh project r.files)).run known b₁ = (.ok (), known, b')) ∨
        ∃ e b', (discard (refresh project r.files)).run known b₁ = (.error e, known, b') ∧
          b.Refuses s r kind e b'.database := by
    rcases run_refresh_cases (m := known) (b := b₁) project r.files with ⟨c, h⟩ | ⟨hfull, c, h⟩
    · exact .inl ⟨_, run_discard h⟩
    · exact .inr ⟨_, _, run_bind_error _ h, by
        rw [show (b₁.withCache c).database = _ from hdb]
        exact .uncached (mt hroomy.mpr hfull)⟩
  by_cases hkind : kind = .compound
  · rw [if_neg (not_not.mpr hkind)]
    exact hrest .rfl (by rw [if_pos hkind])
  · rw [if_pos hkind]
    rcases run_persist_of_works (s := s) (m := known) hb hr with h | ⟨hs, t, ht, x, hx, h⟩
    · have hroomy : (b.saved s r).Roomy ↔ b.Roomy := by
        rw [Backend.saved]
        split <;> exact .rfl
      rw [run_bind_ok _ h]
      exact hrest hroomy (by rw [if_neg hkind])
    · exact .inr ⟨_, b, run_bind_error _ h, .unsaved hs hkind ht hx⟩

/-- An operation has changed nothing that is stored, and nothing that its project shows. -/
structure Untouched (s : ProjectSetup) (project : Text) (m : Memory) (b : Backend) (m' : Memory)
    (b' : Backend) : Prop where
  database : b'.database = b.database
  shown : (m'.asked s project b').shown = (m.asked s project b).shown

theorem untouched_of_asked {c : Option (Cache Cached)}
    (h : m'.asked s project b = m.asked s project b) :
    Untouched s project m b m' (b.withCache c) :=
  ⟨rfl, congrArg Memory.shown h⟩

theorem untouched_of_not_isUtf8 (hpu : project.isUtf8 = false) (hm : m.Intact project)
    (hm' : m'.Intact project) (hintact : b.Intact) (hdb : b'.database = b.database) :
    Untouched s project m b m' b' := by
  have hintact' : b'.Intact := by
    rw [Backend.Intact, hdb]
    exact hintact
  refine ⟨hdb, ?_⟩
  rw [(hm.asked hintact).shown_of_not_isUtf8 hpu, (hm'.asked hintact').shown_of_not_isUtf8 hpu]

theorem asked_asked : (m.asked s project b).asked s project b = m.asked s project b :=
  Memory.asked_of_loaded (m.asked_loaded s project b)

/-- An operation with a course that fails has changed nothing, or commits a record that is not taken
everywhere. -/
theorem run_error_of_course (hb : b.Works) (hintact : b.Intact) (hm : m.Intact project)
    (hop : op.Textual) (hcheck : op.check = .ok ()) {x : Course}
    (hx : op.course? s project b.clock.now (m.asked s project b) = some x)
    (hrun : (op.routine s project).run m b = (.error e, m', b')) :
    Untouched s project m b m' b' ∨
      ∃ v r kind report, Commits s project b.clock.now (m.asked s project b) op v r kind report ∧
        m' = { m.asked s project b with record := some r, nameKind := kind } ∧
        (b.offered v).Refuses s r kind e b'.database := by
  rcases run_ensureLoaded_of_works hb s project m with hload | ⟨hpu, e', hload⟩
  · rw [run_course hload hx] at hrun
    cases x with
    | answer a => cases hrun
    | refuse v e' =>
      -- a refusal behind an offered version would leave the version behind
      cases (declines_of_course? hx).eq_none hop
      cases hrun
      exact .inl (untouched_of_asked asked_asked)
    | commit v r kind report =>
      have hcommits := commits_of_course? hx
      have hr := (hcommits.succeeds hcheck (hm.asked hintact)).intact
      rw [Course.run_commit] at hrun
      rcases hb.offer_cases v with ⟨recorded, hoffer⟩ | ⟨x, hoffer⟩
      · rw [hoffer] at hrun
        dsimp only at hrun
        rcases run_accept_of_works (s := s) (m := m.asked s project b) (hb.offered v) hr kind with
          ⟨b₁, haccept⟩ | ⟨e₁, b₁, haccept, hrefuses⟩
        · rw [run_bind_ok _ haccept] at hrun
          cases hrun
        · rw [run_bind_error _ haccept] at hrun
          cases hrun
          exact .inr ⟨v, r, kind, report, hcommits, rfl, hrefuses⟩
      · rw [hoffer] at hrun
        cases hrun
        exact .inl (untouched_of_asked asked_asked)
  · rw [run_of_load_error hload (asksFirst_of_course? hx)] at hrun
    cases hrun
    exact .inl (untouched_of_not_isUtf8 hpu hm hm hintact rfl)

theorem run_error_summary (hb : b.Works) (hintact : b.Intact) (hm : m.Intact project)
    (hrun : (summary.routine s project).run m b = (.error e, m', b')) :
    Untouched s project m b m' b' := by
  have hlooked := b.lookedUp_eq_withCache project
  have hb₁ : (b.lookedUp project).2.Works := by
    rw [hlooked]
    exact ⟨hb.tables, hb.faults⟩
  rw [routine, run_summarize_lookedUp] at hrun
  split at hrun
  · cases hrun
  -- nothing was found, and the look-up has touched the cache alone
  rw [hlooked] at hrun hb₁
  generalize (b.lookedUp project).2.cache = c at hrun hb₁
  rw [freshSummary] at hrun
  rcases run_ensureLoaded_of_works hb₁ s project m with hload | ⟨hpu, e', hload⟩
  · have hcurrent := run_current_of_load hload
    rw [show m.asked s project (b.withCache c) = m.asked s project b from rfl] at hcurrent
    cases hr : (m.asked s project b).record with
    | none =>
      rw [hr] at hcurrent
      rw [run_bind_error _ hcurrent] at hrun
      cases hrun
      exact untouched_of_asked asked_asked
    | some r =>
      rw [hr] at hcurrent
      rw [run_bind_ok _ hcurrent] at hrun
      rcases run_refresh_cases (m := m.asked s project b) (b := b.withCache c) project r.files with
        ⟨c', h⟩ | ⟨-, c', h⟩
      · rw [run_bind_ok _ h] at hrun
        cases hrun
      · rw [run_bind_error _ h] at hrun
        cases hrun
        exact untouched_of_asked asked_asked
  · rw [current, run_bind_error _ (run_bind_error _ hload)] at hrun
    cases hrun
    exact untouched_of_not_isUtf8 hpu hm hm hintact rfl

theorem run_error_history (hb : b.Works) {limit : Option PageLength}
    (hrun : ((history limit).routine s project).run m b = (.error e, m', b')) :
    Untouched s project m b m' b' := by
  have hpage : ∃ o, (Ledger.page s project limit).run m b = (o, m, b) := by
    rw [Ledger.page]
    cases s.keepsVersions with
    | false => exact ⟨_, rfl⟩
    | true =>
      simp only [Bool.not_true, Bool.false_eq_true, if_false, run_ask_bind, hb.perform_eq]
      cases Database.encodeError? (.listVersions project (s.limits.effective limit)) with
      | some x => exact ⟨_, rfl⟩
      | none =>
        dsimp only
        split <;> exact ⟨_, rfl⟩
  obtain ⟨o, hpage⟩ := hpage
  cases o with
  | ok page =>
    rw [routine, run_bind_ok _ hpage] at hrun
    cases hrun
  | error e' =>
    rw [routine, run_bind_error _ hpage] at hrun
    cases hrun
    exact ⟨rfl, rfl⟩

theorem run_purge_of_not_isUtf8 (hb : b.Works) (hpu : project.isUtf8 = false) :
    (Ledger.purge s project).run m b = (.ok 0, m, b) ∨
      ∃ e, (Ledger.purge s project).run m b = (.error e, m, b) := by
  rw [Ledger.purge]
  cases s.keepsVersions with
  | false => exact .inl rfl
  | true =>
    obtain ⟨x, hcall⟩ := hb.perform_of_not_isUtf8 (c := .eraseVersions project)
      List.mem_cons_self hpu
    exact .inr ⟨_, run_askOr_notUtf8 (c := .eraseVersions project) _ hcall⟩

/-- A deletion fails only where the name of the project cannot be written, and has not got to the
store then. -/
theorem run_error_delete (hb : b.Works) (hintact : b.Intact) (hm : m.Intact project)
    (hrun : (delete.routine s project).run m b = (.error e, m', b')) :
    Untouched s project m b m' b' := by
  cases hpu : project.isUtf8 with
  | true =>
    obtain ⟨existed, hok⟩ := run_remove (s := s) (m := m) hb.bearable hpu
    rw [routine, hok] at hrun
    cases hrun
  | false =>
    have hasked := hm.asked (s := s) hintact
    rcases run_ensureLoaded_of_works hb s project m with hload | ⟨-, e', hload⟩
    · rw [routine, remove, run_bind_ok _ hload, run_memory_bind] at hrun
      -- whichever side of the store is asked first refuses the name
      cases hs : s.keepsProjects with
      | true =>
        obtain ⟨x, hcall⟩ := hb.perform_of_not_isUtf8 (c := .eraseProject project)
          List.mem_cons_self hpu
        rw [hs] at hrun
        have hfail := run_askOr_notUtf8 (c := .eraseProject project) (m := m.asked s project b)
          false hcall
        cases (run_bind_error _ hfail).symm.trans hrun
        exact untouched_of_not_isUtf8 hpu hm hasked hintact rfl
      | false =>
        rw [hs] at hrun
        have hrun := (run_bind_ok _ (run_pure false)).symm.trans hrun
        rcases run_purge_of_not_isUtf8 (s := s) (m := m.asked s project b) hb hpu with
          hpurge | ⟨e', hpurge⟩
        · rw [run_bind_ok _ (run_discard hpurge), run_bind_ok _ (run_invalidate project)] at hrun
          cases hrun
        · rw [run_bind_error _ (run_discard_error hpurge)] at hrun
          cases hrun
          exact untouched_of_not_isUtf8 hpu hm hasked hintact rfl
    · rw [routine, remove, run_bind_error _ hload] at hrun
      cases hrun
      exact untouched_of_not_isUtf8 hpu hm hm hintact rfl

theorem run_error (hb : b.Works) (hintact : b.Intact) (hm : m.Intact project) (hop : op.Textual)
    (hcheck : op.check = .ok ()) (hrun : (op.routine s project).run m b = (.error e, m', b')) :
    Untouched s project m b m' b' ∨
      ∃ v r kind report, Commits s project b.clock.now (m.asked s project b) op v r kind report ∧
        m' = { m.asked s project b with record := some r, nameKind := kind } ∧
        (b.offered v).Refuses s r kind e b'.database := by
  cases hx : op.course? s project b.clock.now (m.asked s project b) with
  | some x => exact run_error_of_course hb hintact hm hop hcheck hx hrun
  | none =>
    rcases course?_eq_none hx with rfl | rfl | ⟨limit, rfl⟩
    · exact .inl (run_error_summary hb hintact hm hrun)
    · exact .inl (run_error_delete hb hintact hm hrun)
    · exact .inl (run_error_history hb hrun)

end Operation

namespace Registry

/-- The state of a registry behind whatever happened to it. -/
def Reachable (r : Registry) : Prop :=
  ∃ setup cache clock, ∃ events : List Event,
    r = events.foldl Registry.after (opened setup cache clock)

/-- What a snapshot and the state show of a project. -/
def shown (r : Registry) (project : Text) : Option Answer × Option Answer :=
  ((r.perform project .snapshot).1.toOption, (r.perform project .status).1.toOption)

/-- Of a project nothing is changed in `r'`: what is shown of it is what `r` shows, and in the store
all is as it was. -/
structure Unchanged (project : Text) (r r' : Registry) : Prop where
  shown : r'.shown project = r.shown project
  database : r'.backend.database = r.backend.database

/-- The operation has failed with `e` once it had committed: the version is written, and the record
is shown, which is not taken everywhere. -/
def FailsCommitted (project : Text) (op : Operation) (e : ProjectError) (r r' : Registry) : Prop :=
  ∃ m v record kind report, m.shown = r.shown project ∧
    Operation.Commits r.setup project r.backend.clock.now m op v record kind report ∧
    (r.backend.offered v).Refuses r.setup record kind e r'.backend.database ∧
    r'.shown project = ({ m with record := some record, nameKind := kind } : Memory).shown

variable {r r' found : Registry} {project : Text} {op : Operation} {e : ProjectError} {n : Nat}
  {a : Actor}

theorem Reachable.intact (h : r.Reachable) : r.Intact := by
  obtain ⟨setup, cache, clock, events, rfl⟩ := h
  exact (intact_opened setup cache clock).foldl_after events

theorem works_perform (hworks : r.backend.Works) (project : Text) (op : Operation) :
    (r.perform project op).2.backend.Works := by
  by_cases hp : project = []
  · subst hp
    exact hworks
  obtain ⟨n, a, found, hf⟩ := r.exists_finds hp
  rcases check_eq_ok_or_error op with hcheck | ⟨e, hcheck⟩
  · rw [hf.perform_eq hcheck rfl]
    exact hworks.run _ _
  · rw [perform_of_bad_check hf hcheck, hf.backend]
    exact hworks

theorem shown_of_finds (h : r.Intact) (hworks : r.backend.Works) (hf : r.Finds project n a found) :
    r.shown project = (a.memory.asked r.setup project r.backend).shown := by
  have ha := (h.found hf).actors a (List.mem_of_getElem? hf.actor)
  have hsnapshot : r.perform project .snapshot = _ := hf.perform_eq rfl rfl
  have hstatus : r.perform project .status = _ := hf.perform_eq rfl rfl
  rw [shown, hsnapshot, hstatus]
  exact Operation.run_shown hworks h.backend ((h.addressed.finds hf).1 ▸ ha.memory)

theorem Intact.perform_error (h : r.Intact) (hworks : r.backend.Works) (hop : op.Textual)
    (herror : r.perform project op = (.error e, r')) :
    Unchanged project r r' ∨ FailsCommitted project op e r r' := by
  by_cases hp : project = []
  · subst hp
    cases herror
    exact .inl ⟨rfl, rfl⟩
  have hintact' := (h.perform project op).1
  have hworks' := works_perform hworks project op
  obtain ⟨n, a, found, hf⟩ := r.exists_finds hp
  obtain ⟨hproject, hopen, hfound⟩ := h.addressed.finds hf
  have hshown := shown_of_finds h hworks hf
  rw [herror] at hintact' hworks'
  rcases check_eq_ok_or_error op with hcheck | ⟨e', hcheck⟩
  · rcases hrun : (op.routine r.setup project).run a.memory r.backend with ⟨o, m', b'⟩
    rw [hf.perform_eq hcheck hrun] at herror
    cases herror
    have ha := (h.found hf).actors a (List.mem_of_getElem? hf.actor)
    have hactor : (found.setActor n { a with memory := m' }).actors[n]? =
        some { a with memory := m' } :=
      List.getElem?_set_self (List.getElem?_eq_some_iff.mp hf.actor).1
    -- the actor that has failed is the one that shows the project from then on
    have hshown' : Registry.shown { found.setActor n { a with memory := m' } with backend := b' }
        project = (m'.asked r.setup project b').shown := by
      rw [← hf.setup]
      exact shown_of_finds hintact' hworks'
        (hintact'.addressed.finds_open hp hactor hopen hproject)
    rcases Operation.run_error hworks h.backend (hproject ▸ ha.memory) hop hcheck hrun with
      huntouched | ⟨v, record, kind, report, hcommits, rfl, hrefuses⟩
    · exact .inl ⟨hshown'.trans (huntouched.shown.trans hshown.symm), huntouched.database⟩
    · refine .inr ⟨_, v, record, kind, report, hshown.symm, hcommits, hrefuses, ?_⟩
      exact hshown'.trans (congrArg Memory.shown (Memory.asked_of_loaded
        (Memory.asked_loaded a.memory r.setup project r.backend)))
  · rw [perform_of_bad_check hf hcheck] at herror
    cases herror
    refine .inl ⟨?_, congrArg Backend.database hf.backend⟩
    rw [hshown, shown_of_finds hintact' hworks'
      (hintact'.addressed.finds_open hp hf.actor hopen hproject), hf.setup, hf.backend]

/-- In any state in which the store works, an operation whose texts are texts and that fails has
changed nothing, or it had committed a record whose name or template cannot be written or whose
files the cache has no room for. -/
theorem unchanged_or_committed_of_error (hr : r.Reachable) (hworks : r.backend.Works)
    (hop : op.Textual) (herror : r.perform project op = (.error e, r')) :
    Unchanged project r r' ∨ FailsCommitted project op e r r' :=
  hr.intact.perform_error hworks hop herror

def demoCreation : Operation :=
  .create (.text "u1") (.text "demo") .nothing (some (.ofList [("a.txt", "1")]))

def demoRegistry : Registry :=
  ((opened {} none { now := { seconds := 0 } }).perform "p1" demoCreation).2

/-- A project that is there stays as it is when it is to be created once more. -/
theorem unchanged_of_secondCreation :
    Unchanged "p1" demoRegistry (demoRegistry.perform "p1" demoCreation).2 := by
  have hreach : demoRegistry.Reachable :=
    ⟨{}, none, { now := { seconds := 0 } }, [.step (.perform "p1" demoCreation)], rfl⟩
  have hworks : demoRegistry.backend.Works := works_perform ⟨rfl, rfl⟩ _ _
  have htextual : demoCreation.Textual := ⟨⟨_, rfl⟩, ⟨_, rfl⟩, ⟨none, rfl⟩⟩
  have herror : (demoRegistry.perform "p1" demoCreation).1 = .error (.alreadyThere "p1") := by
    decide +kernel
  have h := unchanged_or_committed_of_error hreach hworks htextual (Prod.ext herror rfl)
  rcases h with h | ⟨_, _, _, _, _, _, _, hrefuses, _⟩
  · exact h
  · cases hrefuses

/-- A project is to be created under a name that cannot be written. -/
def unwritableCreation : Operation :=
  .create (.text "u1") (.text [⟨0xD800, by decide⟩]) .nothing (some (.ofList [("a.txt", "1")]))

/-- The row of a project is the last that is written of it. Where its name keeps it from being
written, the operation fails, but the version is there and the project is shown. -/
theorem changed_by_unwritableCreation :
    let r := opened {} none { now := { seconds := 0 } }
    let (outcome, r') := r.perform "p1" unwritableCreation
    r.Reachable ∧ r.backend.Works ∧ unwritableCreation.Textual ∧
      outcome = .error (.store (.notUtf8 ⟨0, ⟨0xD800, by decide⟩, 1⟩)) ∧
      (r'.backend.database.versions.trail "p1").length = 1 ∧
      (r'.perform "p1" .snapshot).1 = .ok (.files (.ofList [("a.txt", "1")])) ∧
      ¬Unchanged "p1" r r' := by
  refine ⟨⟨_, _, _, [], rfl⟩, ⟨rfl, rfl⟩, ⟨⟨_, rfl⟩, ⟨_, rfl⟩, ⟨none, rfl⟩⟩, ?_, ?_, ?_, ?_⟩
  · decide +kernel
  · decide +kernel
  · decide +kernel
  · intro h
    exact absurd h.shown (by decide +kernel)

end Registry

end SitePreview
