import SitePreview.Proofs.Project.Interleaving
import SitePreview.Proofs.Project.Serial

/-! An actor at its serial work. At each turn it takes calls from its queue in order, passes over
those that were given up, and finishes calls until one stands at a store call; a turn brings every
call that it has closer to its end. -/

namespace SitePreview

def Job.ofCall (s : ProjectSetup) (project : Text) (call : Call) : Job :=
  ⟨call.1, call.2.routine s project⟩

namespace Actor

/-- The messages that the actor starts on at its turn: of those that it takes, all whose callers have
not given up. -/
def starts (a : Actor) (b : Backend) : List Ticket :=
  ((a.queue.take (a.queue.length - (a.turn b).1.queue.length)).filter fun job =>
    !a.cancelled.contains job.ticket).map Job.ticket

/-- The answers to finished calls, for callers that have not given up. -/
def reported (cancelled : List Ticket) (finished : List (Call × Outcome)) : Answers :=
  (finished.filter fun f => !cancelled.contains f.1.1).map fun f => (f.1.1, f.2)

/-- The actor at its serial work: the calls that wait, those that are finished, and the one under
way, which stands at one of its store calls. -/
structure AtWork (s : ProjectSetup) (project : Text) (b₀ : Backend) (fs : List Change) (a : Actor)
    (b : Backend) (waiting : List Call) (finished : List (Call × Outcome))
    (underWay : Option (Call × Routine Answer)) : Prop where
  queue : a.queue = waiting.map (Job.ofCall s project)
  current : a.current = underWay.map fun u => ⟨u.1.1, u.2⟩
  pending : ∀ u ∈ underWay, u.2.pending?.isSome = true ∧ u.2.Within 3
  serial : Serial s project b₀ fs finished underWay a.memory b

variable {s : ProjectSetup} {project : Text} {b₀ : Backend} {fs : List Change} {a : Actor}
  {b : Backend} {waiting : List Call} {finished : List (Call × Outcome)}
  {underWay : Option (Call × Routine Answer)}

theorem reported_cons (cancelled : List Ticket) (f : Call × Outcome)
    (finished : List (Call × Outcome)) :
    reported cancelled (f :: finished) = reported cancelled [f] ++ reported cancelled finished := by
  rw [reported, reported, reported, ← List.map_append, ← List.filter_append, List.singleton_append]

theorem answerOf_ended {call : Call} {r : Routine Answer} {o : Outcome} (h : r.outcome? = some o)
    (cancelled : List Ticket) :
    answerOf cancelled ⟨call.1, r⟩ = reported cancelled [(call, o)] := by
  rw [answerOf, reported]
  cases r with
  | done | fail =>
    cases h
    cases hc : cancelled.contains call.1 with
    | true => simp only [if_true, List.filter_cons, hc, Bool.not_true]; rfl
    | false => simp only [Bool.false_eq_true, if_false, List.filter_cons, hc, Bool.not_false]; rfl
  | call | look | remember | recache => cases h

theorem takeJobs_keeps (a : Actor) (b : Backend) (jobs : List Job) :
    (a.takeJobs b jobs).1.cancelled = a.cancelled ∧ a.GoesOn (a.takeJobs b jobs).1 := by
  induction jobs generalizing a b with
  | nil => exact ⟨rfl, rfl, rfl⟩
  | cons job jobs ih =>
    rw [takeJobs]
    split
    · exact ih a b
    dsimp only
    split
    · exact ⟨rfl, rfl, rfl⟩
    · obtain ⟨hc, hon⟩ := ih { a with memory := (job.routine.settle a.memory b).2.1 }
        (job.routine.settle a.memory b).2.2
      exact ⟨hc, hon.project, hon.closed⟩

theorem turn_keeps (a : Actor) (b : Backend) :
    (a.turn b).1.cancelled = a.cancelled ∧ a.GoesOn (a.turn b).1 := by
  rw [turn]
  split
  · exact takeJobs_keeps a b a.queue
  · next job _ =>
    dsimp only
    split
    · exact ⟨rfl, rfl, rfl⟩
    · obtain ⟨hc, hon⟩ := takeJobs_keeps
        { a with memory := (resume a.memory b job.routine).2.1 }
        (resume a.memory b job.routine).2.2 a.queue
      exact ⟨hc, hon.project, hon.closed⟩

/-- What a turn comes to, with these calls begun before and those waiting: some calls are taken, and
of all that are begun then, some are finished and answered and one at most is left, which stands at
a store call. -/
def Advances (s : ProjectSetup) (project : Text) (b₀ : Backend) (fs : List Change)
    (cancelled : List Ticket) (begun waiting : List Call) (finished : List (Call × Outcome))
    (after : Actor × Backend × Answers) : Prop :=
  ∃ taken rest done underWay, waiting = taken ++ rest ∧
    AtWork s project b₀ fs after.1 after.2.1 rest (finished ++ done) underWay ∧
    (begun ++ taken.filter fun c => !cancelled.contains c.1) =
      done.map Prod.fst ++ (underWay.map Prod.fst).toList ∧
    after.2.2 = reported cancelled done

section Advances

variable {cancelled : List Ticket} {after : Actor × Backend × Answers} {call : Call}

theorem advances_of_idle (h : Serial s project b₀ fs finished none a.memory b)
    (hqueue : a.queue = []) (hcurrent : a.current = none) :
    Advances s project b₀ fs cancelled [] [] finished (a, b, []) := by
  refine ⟨[], [], [], none, rfl, ⟨hqueue, hcurrent, fun u hu => (nomatch hu), ?_⟩, rfl, rfl⟩
  rw [List.append_nil]
  exact h

theorem advances_of_stands {r : Routine Answer}
    (h : Serial s project b₀ fs finished (some (call, r)) a.memory b)
    (hqueue : a.queue = waiting.map (Job.ofCall s project)) (hcurrent : a.current = some ⟨call.1, r⟩)
    (hpending : r.pending?.isSome = true) (hwithin : r.Within 3) :
    Advances s project b₀ fs cancelled [call] waiting finished (a, b, []) := by
  refine ⟨[], waiting, [], some (call, r), rfl, ⟨hqueue, hcurrent, ?_, ?_⟩, rfl, rfl⟩
  · rintro u ⟨⟩
    exact ⟨hpending, hwithin⟩
  · rw [List.append_nil]
    exact h

theorem Advances.pass (h : Advances s project b₀ fs cancelled [] waiting finished after)
    (hgiven : cancelled.contains call.1 = true) :
    Advances s project b₀ fs cancelled [] (call :: waiting) finished after := by
  obtain ⟨taken, rest, done, underWay, rfl, hwork, hkept, hanswers⟩ := h
  refine ⟨call :: taken, rest, done, underWay, rfl, hwork, ?_, hanswers⟩
  rw [List.filter_cons_of_neg (by simpa using hgiven)]
  exact hkept

theorem Advances.take (h : Advances s project b₀ fs cancelled [call] waiting finished after)
    (hkeeps : ¬cancelled.contains call.1 = true) :
    Advances s project b₀ fs cancelled [] (call :: waiting) finished after := by
  obtain ⟨taken, rest, done, underWay, rfl, hwork, hkept, hanswers⟩ := h
  refine ⟨call :: taken, rest, done, underWay, rfl, hwork, ?_, hanswers⟩
  rw [List.filter_cons_of_pos (by simpa using hkeeps)]
  exact hkept

/-- A call that has ended is answered, and others are taken. -/
theorem Advances.finish {r : Routine Answer} {o : Outcome} {jobs : List Job}
    (h : Advances s project b₀ fs a.cancelled [] waiting (finished ++ [(call, o)])
      (a.takeJobs b jobs)) (ho : r.outcome? = some o) :
    Advances s project b₀ fs a.cancelled [call] waiting finished
      ((a.takeJobs b jobs).1, (a.takeJobs b jobs).2.1,
        answerOf (a.takeJobs b jobs).1.cancelled ⟨call.1, r⟩ ++ (a.takeJobs b jobs).2.2) := by
  obtain ⟨taken, rest, done, underWay, rfl, hwork, hkept, hanswers⟩ := h
  refine ⟨taken, rest, (call, o) :: done, underWay, rfl, ?_, congrArg (call :: ·) hkept, ?_⟩
  · rw [List.append_cons]
    exact hwork
  · rw [(takeJobs_keeps a b jobs).1, answerOf_ended ho, hanswers]
    exact (reported_cons _ _ _).symm

end Advances

/-- An actor with nothing under way takes calls in order and begins those that were not given up,
each to its end, until one stands at a store call. -/
theorem takeJobs_advances (h : Serial s project b₀ fs finished none a.memory b)
    (waiting : List Call) :
    Advances s project b₀ fs a.cancelled [] waiting finished
      (a.takeJobs b (waiting.map (Job.ofCall s project))) := by
  induction waiting generalizing a b finished with
  | nil => exact advances_of_idle h rfl rfl
  | cons call calls ih =>
    rw [List.map_cons, takeJobs]
    split
    · next hgiven => exact (ih h).pass hgiven
    next hkeeps =>
    have hbegun := h.begin call
    have hbound : (call.2.routine s project).Within 3 := Operation.routine_within call.2
    have hwithin := hbound.settle a.memory b
    refine Advances.take ?_ hkeeps
    dsimp only
    split
    · next c hpending =>
      exact advances_of_stands hbegun rfl rfl (Option.isSome_of_eq_some hpending) hwithin
    · next hended =>
      obtain ⟨o, ho⟩ := Routine.exists_outcome_of_settle hended
      exact (ih (a := { a with memory := ((call.2.routine s project).settle a.memory b).2.1 })
        (hbegun.finish ho)).finish ho

/-- At its turn, an actor takes calls in order, finishes some of them, and answers those of which the
callers still wait. -/
theorem AtWork.turn (h : AtWork s project b₀ fs a b waiting finished underWay) :
    Advances s project b₀ fs a.cancelled (underWay.map Prod.fst).toList waiting finished
      (a.turn b) := by
  have hserial := h.serial
  cases underWay with
  | none =>
    rw [Actor.turn, h.current, h.queue]
    exact takeJobs_advances hserial waiting
  | some u =>
    obtain ⟨call, r⟩ := u
    obtain ⟨hpending, hwithin⟩ := h.pending _ rfl
    rw [Actor.turn, h.current, h.queue]
    dsimp only [Option.map_some]
    split
    · next c hstands =>
      exact advances_of_stands hserial.resume rfl rfl (Option.isSome_of_eq_some hstands)
        ((hwithin.resume hpending a.memory b).2.mono (by omega))
    · next hended =>
      obtain ⟨o, ho⟩ : ∃ o, (resume a.memory b r).1.outcome? = some o := by
        cases r with
        | call c next => exact Routine.exists_outcome_of_settle hended
        | done | fail | look | remember | recache => cases hpending
      exact (takeJobs_advances (a := ⟨a.project, (resume a.memory b r).2.1,
        waiting.map (Job.ofCall s project), some ⟨call.1, r⟩, a.cancelled, a.closed⟩)
        (hserial.resume.finish ho) waiting).finish ho

theorem AtWork.of_mem_current (h : AtWork s project b₀ fs a b waiting finished underWay) :
    ∀ job ∈ a.current, job.routine.pending?.isSome = true ∧ job.routine.Within 3 := by
  intro job hjob
  rw [h.current] at hjob
  obtain ⟨u, hu, rfl⟩ := Option.mem_map.mp hjob
  exact h.pending u hu

theorem AtWork.within_of_mem_queue (h : AtWork s project b₀ fs a b waiting finished underWay) :
    ∀ job ∈ a.queue, job.routine.Within 3 := by
  intro job hjob
  rw [h.queue] at hjob
  obtain ⟨c, -, rfl⟩ := List.mem_map.mp hjob
  exact Operation.routine_within c.2

/-- The actor starts on the calls that it takes and that were not given up. -/
theorem AtWork.starts_eq (h : AtWork s project b₀ fs a b waiting finished underWay)
    {taken rest : List Call} (hsplit : waiting = taken ++ rest)
    (hrest : (a.turn b).1.queue = rest.map (Job.ofCall s project)) :
    a.starts b = (taken.filter fun c => !a.cancelled.contains c.1).map Prod.fst := by
  have hlength : (waiting.map (Job.ofCall s project)).length -
      (rest.map (Job.ofCall s project)).length = (taken.map (Job.ofCall s project)).length := by
    simp [hsplit]
  rw [starts, hrest, h.queue, hlength, hsplit, List.map_append, List.take_left, List.filter_map,
    List.map_map]
  rfl

theorem not_mem_starts_of_cancelled {ticket : Ticket} (h : ticket ∈ a.cancelled) :
    ticket ∉ a.starts b := by
  intro hs
  obtain ⟨job, hjob, rfl⟩ := List.mem_map.mp hs
  have hkept := (List.mem_filter.mp hjob).2
  rw [List.contains_iff_mem.mpr h] at hkept
  cases hkept

/-- The message with this ticket is not among those that wait, and if it is under way it makes at
most `n` store calls more; or it waits behind others that the actor is done with in time: each of
them takes a turn for every store call and one to be begun. -/
inductive Due (ticket : Ticket) (n : Nat) (a : Actor) : Prop
  | taken (hqueue : ∀ job ∈ a.queue, job.ticket ≠ ticket)
      (hcurrent : ∀ job ∈ a.current, job.ticket = ticket → job.routine.Within n)
  | waiting (ahead : List Job) (job : Job) (behind : List Job) (left : Nat)
      (hqueue : a.queue = ahead ++ job :: behind) (hbehind : ∀ job ∈ behind, job.ticket ≠ ticket)
      (hcurrent : ∀ job ∈ a.current, job.routine.Within left)
      (hbound : left + 4 * (ahead.length + 1) ≤ n)

variable {ticket : Ticket} {jobs : List Job} {n : Nat}

theorem Due.mono {k : Nat} (h : Due ticket n a) (hk : n ≤ k) : Due ticket k a := by
  cases h with
  | taken hqueue hcurrent =>
    exact .taken hqueue fun job hjob ht => (hcurrent job hjob ht).mono hk
  | waiting ahead job behind left hqueue hbehind hcurrent hbound =>
    exact .waiting ahead job behind left hqueue hbehind hcurrent (hbound.trans hk)

theorem Due.congr {a' : Actor} (h : Due ticket n a) (hqueue : a'.queue = a.queue)
    (hcurrent : a'.current = a.current) : Due ticket n a' := by
  cases h with
  | taken hgone hleft => exact .taken (hqueue ▸ hgone) (hcurrent ▸ hleft)
  | waiting ahead job behind left hsplit hbehind hleft hbound =>
    exact .waiting ahead job behind left (hqueue ▸ hsplit) hbehind (hcurrent ▸ hleft) hbound

/-- A later message waits behind. -/
theorem Due.behind (h : Due ticket n a) {later : Job} (hlater : later.ticket ≠ ticket) :
    Due ticket n { a with queue := a.queue ++ [later] } := by
  have hothers {jobs : List Job} (h : ∀ job ∈ jobs, job.ticket ≠ ticket) :
      ∀ job ∈ jobs ++ [later], job.ticket ≠ ticket :=
    List.forall_mem_append.mpr ⟨h, List.forall_mem_singleton.mpr hlater⟩
  cases h with
  | taken hgone hleft => exact .taken (hothers hgone) hleft
  | waiting ahead job behind left hsplit hbehind hleft hbound =>
    refine .waiting ahead job (behind ++ [later]) left ?_ (hothers hbehind) hleft hbound
    show a.queue ++ [later] = _
    rw [hsplit, List.append_assoc, List.cons_append]

theorem due_takeJobs_of_gone (h : ∀ job ∈ jobs, job.ticket ≠ ticket) (n : Nat) :
    Due ticket n (a.takeJobs b jobs).1 := by
  induction jobs generalizing a b with
  | nil => exact .taken (fun _ h => (nomatch h)) fun _ h => nomatch h
  | cons job jobs ih =>
    rw [List.forall_mem_cons] at h
    rw [takeJobs]
    split
    · exact ih h.2
    dsimp only
    split
    · refine .taken h.2 fun x hx hticket => ?_
      cases hx
      exact absurd hticket h.1
    · exact ih h.2

theorem due_takeJobs {ahead behind : List Job} {job : Job}
    (hwithin : ∀ x ∈ ahead ++ [job], x.routine.Within 3)
    (hbehind : ∀ x ∈ behind, x.ticket ≠ ticket) :
    Due ticket (4 * ahead.length + 3) (a.takeJobs b (ahead ++ job :: behind)).1 := by
  induction ahead generalizing a b with
  | nil =>
    rw [List.nil_append, takeJobs]
    split
    · exact due_takeJobs_of_gone hbehind _
    dsimp only
    split
    · refine .taken hbehind fun x hx _ => ?_
      cases hx
      exact (hwithin job (by simp)).settle a.memory b
    · exact due_takeJobs_of_gone hbehind _
  | cons x ahead ih =>
    rw [List.cons_append, List.forall_mem_cons] at hwithin
    have hlonger : 4 * ahead.length + 3 ≤ 4 * (x :: ahead).length + 3 := by
      rw [List.length_cons]
      omega
    rw [List.cons_append, takeJobs]
    split
    · exact (ih hwithin.2).mono hlonger
    dsimp only
    split
    · refine .waiting ahead job behind 3 rfl hbehind (fun j hj => ?_) ?_
      · cases hj
        exact hwithin.1.settle a.memory b
      · rw [List.length_cons]
        omega
    · exact (ih hwithin.2).mono hlonger

/-- A turn of an actor brings every call of it one turn closer to its end. -/
theorem Due.turn (h : Due ticket n a) (hqueue : ∀ job ∈ a.queue, job.routine.Within 3)
    (hpending : ∀ job ∈ a.current, job.routine.pending?.isSome = true) :
    Due ticket (n - 1) (a.turn b).1 := by
  rw [Actor.turn]
  cases hc : a.current with
  | none =>
    cases h with
    | taken hgone _ => exact due_takeJobs_of_gone hgone _
    | waiting ahead job behind left hsplit hbehind _ hbound =>
      rw [hsplit, List.append_cons, List.forall_mem_append] at hqueue
      dsimp only
      rw [hsplit]
      exact (due_takeJobs hqueue.1 hbehind).mono (by omega)
  | some current =>
    have hstands := hpending current hc
    dsimp only
    cases h with
    | taken hgone hcurrent =>
      split
      · refine .taken hgone fun job hjob ht => ?_
        cases hjob
        exact ((hcurrent current hc ht).resume hstands a.memory b).2
      · exact due_takeJobs_of_gone hgone _
    | waiting ahead job behind left hsplit hbehind hcurrent hbound =>
      obtain ⟨hpositive, hless⟩ := (hcurrent current hc).resume hstands a.memory b
      split
      · refine .waiting ahead job behind (left - 1) hsplit hbehind (fun x hx => ?_) (by omega)
        cases hx
        exact hless
      · rw [hsplit, List.append_cons, List.forall_mem_append] at hqueue
        rw [hsplit]
        exact (due_takeJobs hqueue.1 hbehind).mono (by omega)

end Actor

end SitePreview
