import SitePreview.Proofs.Project.Integrity

/-! Interleavings: messages wait at the actors of a registry and take turns at store calls, beside
operations that run at once, callers that give up, actors that are released and closed, and store
calls that fail. Whatever happens in whatever order, all that is remembered and stored is intact. -/

namespace SitePreview

namespace Actor

/-- The actor remembers an intact record if any, and all its messages uphold integrity. -/
structure Intact (a : Actor) : Prop where
  memory : a.memory.Intact a.project
  jobs : ∀ job ∈ a.current.toList ++ a.queue, job.routine.Upholds a.project fun _ => True

/-- No text failed to be written in UTF-8. -/
def Answers.Writable (answers : Answers) : Prop :=
  ∀ answer ∈ answers, ∀ x, answer.2 ≠ .error (.notUtf8 x)

/-- An actor goes on as one of the same project, and is open if it was. -/
structure GoesOn (a a' : Actor) : Prop where
  project : a'.project = a.project
  closed : a'.closed = a.closed

variable {a : Actor} {b : Backend}

theorem writable_answerOf {cancelled : List Ticket} (job : Job) {project : Text}
    (h : job.routine.Upholds project fun _ => True) : (answerOf cancelled job).Writable := by
  intro answer hanswer x
  rw [answerOf] at hanswer
  split at hanswer
  · cases hanswer
  cases hr : job.routine with
  | done value =>
    rw [hr, List.mem_singleton] at hanswer
    subst hanswer
    simp
  | fail e =>
    rw [hr, List.mem_singleton] at hanswer
    subst hanswer
    rw [hr] at h
    intro he
    exact h x (Except.error.inj he)
  | call | look | remember | recache =>
    rw [hr] at hanswer
    cases hanswer

theorem takeJobs_intact {jobs : List Job} (hm : a.memory.Intact a.project)
    (hjobs : ∀ job ∈ jobs, job.routine.Upholds a.project fun _ => True) (hb : b.Intact) :
    (a.takeJobs b jobs).1.Intact ∧ a.GoesOn (a.takeJobs b jobs).1 ∧
      (a.takeJobs b jobs).2.1.Intact ∧ (a.takeJobs b jobs).2.2.Writable := by
  induction jobs generalizing a b with
  | nil => exact ⟨⟨hm, fun _ h => nomatch h⟩, ⟨rfl, rfl⟩, hb, fun _ h => nomatch h⟩
  | cons job jobs ih =>
    rw [List.forall_mem_cons] at hjobs
    obtain ⟨hjob, hjobs⟩ := hjobs
    rw [takeJobs]
    split
    · exact ih hm hjobs hb
    obtain ⟨hr, hm', hb'⟩ := hjob.settle hm hb
    dsimp only
    split
    · refine ⟨⟨hm', fun x hx => ?_⟩, ⟨rfl, rfl⟩, hb', fun _ h => nomatch h⟩
      rcases List.mem_cons.mp hx with rfl | hx
      · exact hr
      · exact hjobs x hx
    · obtain ⟨ha, hon, hb'', hanswers⟩ :=
        ih (a := { a with memory := (job.routine.settle a.memory b).2.1 }) hm' hjobs hb'
      refine ⟨ha, ⟨hon.project, hon.closed⟩, hb'', fun answer hanswer => ?_⟩
      rcases List.mem_append.mp hanswer with h | h
      · exact writable_answerOf { job with routine := (job.routine.settle a.memory b).1 } hr
          answer h
      · exact hanswers answer h

theorem resume_upholds {r : Routine Answer} {project : Text} {m : Memory}
    (h : r.Upholds project fun _ => True) (hm : m.Intact project) (hb : b.Intact) :
    (resume m b r).1.Upholds project (fun _ => True) ∧ (resume m b r).2.1.Intact project ∧
      (resume m b r).2.2.Intact := by
  cases r with
  | call c next =>
    obtain ⟨hb', hreply⟩ := hb.perform h.1
    exact (h.2 _ hreply).settle hm hb'
  | done | fail | look | remember | recache => exact h.settle hm hb

theorem Intact.turn (h : a.Intact) (hb : b.Intact) :
    (a.turn b).1.Intact ∧ a.GoesOn (a.turn b).1 ∧ (a.turn b).2.1.Intact ∧
      (a.turn b).2.2.Writable := by
  rw [Actor.turn]
  cases hc : a.current with
  | none => exact takeJobs_intact h.memory (fun job hj => h.jobs job (by simp [hc, hj])) hb
  | some job =>
    obtain ⟨hr, hm, hb'⟩ := resume_upholds (h.jobs job (by simp [hc])) h.memory hb
    have hjobs : ∀ job ∈ a.queue, job.routine.Upholds a.project fun _ => True :=
      fun job hj => h.jobs job (by simp [hj])
    dsimp only
    split
    · refine ⟨⟨hm, fun x hx => ?_⟩, ⟨rfl, rfl⟩, hb', fun _ h => nomatch h⟩
      rcases List.mem_cons.mp hx with rfl | hx
      · exact hr
      · exact hjobs x hx
    · obtain ⟨ha, hon, hb'', hanswers⟩ := takeJobs_intact
        (a := { a with memory := (resume a.memory b job.routine).2.1, current := some job })
        hm hjobs hb'
      refine ⟨ha, ⟨hon.project, hon.closed⟩, hb'', fun answer hanswer => ?_⟩
      rcases List.mem_append.mp hanswer with h | h
      · exact writable_answerOf { job with routine := (resume a.memory b job.routine).1 } hr
          answer h
      · exact hanswers answer h

end Actor

theorem Operation.check_ne_notUtf8 {op : Operation} {e : ProjectError} (h : op.check = .error e)
    (x : Text.EncodeError) : e ≠ .notUtf8 x := by
  rw [check] at h
  split at h
  · cases h
    simp
  split at h
  · cases h
  · unfold Snapshot.checkFiles at h
    split at h
    · cases h
      simp
    · cases h

namespace Registry

/-- What happens to a registry whose actors take turns. -/
inductive Event
  | step (x : Step)
  | submit (project : Text) (op : Operation)
  | turn (n : Nat)
  | cancel (ticket : Ticket)

/-- The registry behind an event. -/
def after (r : Registry) : Event → Registry
  | .step x => r.step x
  | .submit project op => (r.submit project op).2
  | .turn n => (r.turn n).1
  | .cancel ticket => r.cancel ticket

/-- What callers are answered at an event. -/
def outcomes (r : Registry) : Event → List Outcome
  | .step (.perform project op) => [(r.perform project op).1]
  | .submit project op =>
    match (r.submit project op).1 with
    | .error e => [.error e]
    | .ok _ => []
  | .turn n => (r.turn n).2.map Prod.snd
  | .step _ | .cancel _ => []

variable {r : Registry} {project : Text} {n : Nat} {a : Actor}

/-- The store and all actors are intact, and the registry knows its actors. -/
structure Intact (r : Registry) : Prop where
  backend : r.backend.Intact
  addressed : r.Addressed
  actors : ∀ a ∈ r.actors, a.Intact

theorem intact_opened (setup : ProjectSetup) (cache : Option (Cache Cached)) (clock : Clock) :
    (opened setup cache clock).Intact where
  backend _ h := nomatch h
  addressed := addressed_opened setup cache clock
  actors _ h := nomatch h

theorem Intact.withBackend (h : r.Intact) {b : Backend} (hb : b.Intact) :
    Intact { r with backend := b } := ⟨hb, h.addressed.withBackend b, h.actors⟩

theorem Intact.setActor (h : r.Intact) (ha : r.actors[n]? = some a) {x : Actor} (hx : x.Intact)
    (hon : a.GoesOn x) : (r.setActor n x).Intact where
  backend := h.backend
  addressed := h.addressed.setActor ha hon.project hon.closed
  actors y hy := by
    rcases List.mem_or_eq_of_mem_set hy with hy | rfl
    · exact h.actors y hy
    · exact hx

theorem Intact.found {found : Registry} (h : r.Intact) (hf : r.Finds project n a found) :
    found.Intact where
  backend := hf.backend ▸ h.backend
  addressed := (h.addressed.finds hf).2.2
  actors x hx := by
    rcases hf.actors x hx with hx | rfl
    · exact h.actors x hx
    · exact ⟨fun _ h => (nomatch h), fun _ h => nomatch h⟩

/-- An operation leaves the registry intact and does not fail at a text of a file. -/
theorem Intact.perform (h : r.Intact) (project : Text) (op : Operation) :
    (r.perform project op).2.Intact ∧ ∀ x, (r.perform project op).1 ≠ .error (.notUtf8 x) := by
  by_cases hp : project = []
  · subst hp
    exact ⟨h, fun x he => nomatch he⟩
  obtain ⟨n, a, found, hf⟩ := r.exists_finds hp
  have hfound := h.found hf
  rcases check_eq_ok_or_error op with hcheck | ⟨e, hcheck⟩
  · have hproject := (h.addressed.finds hf).1
    have ha := hfound.actors a (List.mem_of_getElem? hf.actor)
    have hupholds : (op.routine r.setup project).Upholds project fun _ => True :=
      Operation.upholds hcheck
    obtain ⟨hm, hb, -, hne⟩ := hupholds.run (hproject ▸ ha.memory) h.backend
    rw [hf.perform_eq hcheck rfl]
    have hset := hfound.setActor hf.actor
      (x := { a with memory := ((op.routine r.setup project).run a.memory r.backend).2.1 })
      ⟨hproject ▸ hm, ha.jobs⟩ ⟨rfl, rfl⟩
    exact ⟨hset.withBackend hb, hne⟩
  · rw [perform_of_bad_check hf hcheck]
    exact ⟨hfound, fun x he => Operation.check_ne_notUtf8 hcheck x (Except.error.inj he)⟩

/-- What an actor has been sent to waits behind its other messages, unless it is closed. -/
theorem send_eq (ha : r.actors[n]? = some a) {op : Operation} (hcheck : op.check = .ok ()) :
    r.send n op = if a.closed then (.error (.closed a.project), r)
      else (.ok r.nextTicket, { r.setActor n { a with
        queue := a.queue ++ [⟨r.nextTicket, op.routine r.setup a.project⟩] } with
        nextTicket := r.nextTicket + 1 }) := by
  simp only [Registry.send, hcheck, ha, Actor.submit]
  cases a.closed <;> rfl

theorem send_of_bad_check {op : Operation} {e : ProjectError} (hcheck : op.check = .error e) :
    r.send n op = (.error e, r) := by
  simp only [Registry.send, hcheck]

/-- A message that is refused changes nothing. One that is taken is put at the end of a queue. -/
theorem send_cases (r : Registry) (n : Nat) (op : Operation) :
    (∃ e, r.send n op = (.error e, r) ∧ ∀ x, e ≠ .notUtf8 x) ∨
      ∃ a, r.actors[n]? = some a ∧ op.check = .ok () ∧ a.closed = false ∧
        r.send n op = (.ok r.nextTicket, { r.setActor n { a with
          queue := a.queue ++ [⟨r.nextTicket, op.routine r.setup a.project⟩] } with
          nextTicket := r.nextTicket + 1 }) := by
  rcases check_eq_ok_or_error op with hcheck | ⟨e, hcheck⟩
  · cases hn : r.actors[n]? with
    | none =>
      refine .inl ⟨.closed [], ?_, fun x he => nomatch he⟩
      simp only [Registry.send, hcheck, hn]
    | some a =>
      have hsend := send_eq hn hcheck
      cases hclosed : a.closed with
      | true => exact .inl ⟨_, hsend.trans (if_pos hclosed), fun x he => nomatch he⟩
      | false =>
        exact .inr ⟨a, rfl, hcheck, hclosed, hsend.trans (if_neg (by simp [hclosed]))⟩
  · exact .inl ⟨e, send_of_bad_check hcheck, Operation.check_ne_notUtf8 hcheck⟩

theorem Intact.send (h : r.Intact) (n : Nat) (op : Operation) :
    (r.send n op).2.Intact ∧ ∀ x, (r.send n op).1 ≠ .error (.notUtf8 x) := by
  rcases r.send_cases n op with ⟨e, hsend, he⟩ | ⟨a, hn, hcheck, -, hsend⟩
  · rw [hsend]
    exact ⟨h, fun x hx => he x (Except.error.inj hx)⟩
  · have ha := h.actors a (List.mem_of_getElem? hn)
    have hset := h.setActor hn (x := { a with
      queue := a.queue ++ [⟨r.nextTicket, op.routine r.setup a.project⟩] })
      ⟨ha.memory, fun job hj => ?_⟩ ⟨rfl, rfl⟩
    · rw [hsend]
      exact ⟨⟨hset.backend, ⟨hset.addressed.named, hset.addressed.live⟩, hset.actors⟩,
        fun x he => nomatch he⟩
    · rw [← List.append_assoc, List.mem_append, List.mem_singleton] at hj
      rcases hj with hj | rfl
      · exact ha.jobs job hj
      · exact Operation.upholds hcheck

theorem Intact.submit (h : r.Intact) (project : Text) (op : Operation) :
    (r.submit project op).2.Intact ∧ ∀ x, (r.submit project op).1 ≠ .error (.notUtf8 x) := by
  by_cases hp : project = []
  · subst hp
    exact ⟨h, fun x he => nomatch he⟩
  obtain ⟨n, a, found, hf⟩ := r.exists_finds hp
  rw [Registry.submit, hf.get]
  exact (h.found hf).send n op

theorem Intact.turn (h : r.Intact) (n : Nat) :
    (r.turn n).1.Intact ∧ (r.turn n).2.Writable := by
  rw [Registry.turn]
  cases ha : r.actors[n]? with
  | none => exact ⟨h, fun _ h => nomatch h⟩
  | some a =>
    obtain ⟨ha', hon, hb, hanswers⟩ := (h.actors a (List.mem_of_getElem? ha)).turn h.backend
    exact ⟨(h.setActor ha ha' hon).withBackend hb, hanswers⟩

theorem Intact.closeActor (h : r.Intact) (n : Nat) : (r.closeActor n).Intact where
  backend := h.backend
  addressed := h.addressed.closeActor n
  actors x hx := by
    obtain ⟨k, hk⟩ := List.mem_iff_getElem?.mp hx
    rw [getElem?_closeActor, Option.map_eq_some_iff] at hk
    obtain ⟨a, ha, rfl⟩ := hk
    have ha := h.actors a (List.mem_of_getElem? ha)
    split
    · exact ⟨ha.memory, ha.jobs⟩
    · exact ha

theorem Intact.closeActors (h : r.Intact) (es : List (Text × Nat)) :
    (es.foldl (fun r e => r.closeActor e.2) r).Intact := by
  induction es generalizing r with
  | nil => exact h
  | cons e es ih => exact ih (h.closeActor e.2)

theorem Intact.cancel (h : r.Intact) (ticket : Ticket) : (r.cancel ticket).Intact where
  backend := h.backend
  addressed := by
    have hget (n : Nat) : (r.cancel ticket).actors[n]? =
        r.actors[n]?.map fun a => a.cancel ticket := List.getElem?_map
    constructor
    · intro p n hn
      obtain ⟨a, ha, hp⟩ := h.addressed.named p n hn
      exact ⟨a.cancel ticket, by rw [hget, ha]; rfl, hp⟩
    · intro n a ha hopen
      rw [hget, Option.map_eq_some_iff] at ha
      obtain ⟨x, hx, rfl⟩ := ha
      exact h.addressed.live n x hx hopen
  actors x hx := by
    obtain ⟨a, ha, rfl⟩ := List.mem_map.mp hx
    exact ⟨(h.actors a ha).memory, (h.actors a ha).jobs⟩

theorem Intact.step (h : r.Intact) (x : Step) : (r.step x).Intact := by
  cases x with
  | perform project op => exact (h.perform project op).1
  | start project =>
    by_cases hp : project = []
    · rw [Registry.step, get, if_pos hp]
      exact h
    · obtain ⟨n, a, found, hf⟩ := r.exists_finds hp
      rw [Registry.step, hf.get]
      exact h.found hf
  | release project =>
    have hrelease := h.addressed.release project
    rw [Registry.step]
    cases hn : r.known.lookup project with
    | none =>
      simp only [Registry.release, hn]
      exact h
    | some n =>
      have hclosed := h.closeActor n
      simp only [Registry.release, hn] at hrelease ⊢
      exact ⟨hclosed.backend, hrelease, hclosed.actors⟩
  | closeActor n => exact h.closeActor n
  | closeAll =>
    have hclosed := h.closeActors r.known
    exact ⟨hclosed.backend, h.addressed.close, hclosed.actors⟩
  | setFaults | setClock => exact h.withBackend h.backend

theorem Intact.after (h : r.Intact) (event : Event) : (r.after event).Intact := by
  cases event with
  | step x => exact h.step x
  | submit project op => exact (h.submit project op).1
  | turn n => exact (h.turn n).1
  | cancel ticket => exact h.cancel ticket

theorem Intact.foldl_after (h : r.Intact) (events : List Event) :
    (events.foldl Registry.after r).Intact := by
  induction events generalizing r with
  | nil => exact h
  | cons event events ih => exact ih (h.after event)

theorem Intact.outcomes (h : r.Intact) (event : Event) :
    ∀ outcome ∈ r.outcomes event, ∀ x, outcome ≠ .error (.notUtf8 x) := by
  intro outcome ho x
  cases event with
  | step y =>
    cases y with
    | perform project op =>
      rw [List.mem_singleton.mp ho]
      exact (h.perform project op).2 x
    | start | release | closeActor | closeAll | setFaults | setClock => cases ho
  | submit project op =>
    rw [Registry.outcomes] at ho
    split at ho
    · next e he =>
      rw [List.mem_singleton.mp ho]
      intro hx
      cases hx
      exact (h.submit project op).2 x he
    · cases ho
  | turn n =>
    obtain ⟨answer, hanswer, rfl⟩ := List.mem_map.mp ho
    exact (h.turn n).2 answer hanswer x
  | cancel => cases ho

/-- Whatever happened to a registry: a record that an actor remembers is that of its project, every
path and content in it follows the rules, its hash is the hash of its files, and its files can be
measured; the same holds for every row of the store; and no caller is answered that a text of a file
cannot be written. -/
theorem records_intact (setup : ProjectSetup) (cache : Option (Cache Cached)) (clock : Clock)
    (events : List Event) :
    (∀ a ∈ (events.foldl Registry.after (opened setup cache clock)).actors,
        ∀ record ∈ a.memory.record, record.Intact a.project ∧
          ∃ sizes, Operation.sizes record.files = .ok sizes) ∧
      (∀ row ∈ (events.foldl Registry.after
          (opened setup cache clock)).backend.database.projects.rows,
        row.Intact row.projectId ∧ ∃ sizes, Operation.sizes row.files = .ok sizes) ∧
      ∀ event, ∀ outcome ∈ (events.foldl Registry.after (opened setup cache clock)).outcomes event,
        ∀ x, outcome ≠ .error (.notUtf8 x) := by
  have h := (intact_opened setup cache clock).foldl_after events
  refine ⟨fun a ha record hrecord => ?_, fun row hrow => ?_, h.outcomes⟩
  · have hrecord := (h.actors a ha).memory record hrecord
    exact ⟨hrecord, _, Operation.sizes_of_legal hrecord.files⟩
  · have hrow := h.backend row hrow
    exact ⟨hrow, _, Operation.sizes_of_legal hrow.files⟩

end Registry

end SitePreview
