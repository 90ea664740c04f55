import SitePreview.Proofs.Project.Worker

/-! The mailbox of an actor. Clients call operations, give calls up and close the actor in any order
beside its turns, and others change what actors share meanwhile. The actor works serially through
the calls in the order in which it accepted them, passes over those that were given up in time, and
answers every other call once; closed, it finishes what it has accepted and takes nothing more. -/

namespace SitePreview

namespace Registry

/-- A registry with one actor, which nobody has asked for anything yet, over any shared state. -/
def staffed (setup : ProjectSetup) (b : Backend) (project : Text) : Registry :=
  { setup := setup, backend := b, actors := [{ project := project }], known := [(project, 0)] }

/-- What clients do to that actor, and what happens meanwhile: a turn of the actor, or a change that
others make to the shared state. -/
inductive Incident
  | call (op : Operation)
  | cancel (ticket : Ticket)
  | close
  | turn
  | change (f : Change)

namespace Incident

def isTurn : Incident → Bool
  | turn => true
  | _ => false

def change? : Incident → Option Change
  | change f => some f
  | _ => none

end Incident

/-- The registry behind an incident. -/
def undergo (r : Registry) : Incident → Registry
  | .call op => (r.send 0 op).2
  | .cancel ticket => r.cancel ticket
  | .close => r.closeActor 0
  | .turn => (r.turn 0).1
  | .change f => { r with backend := f r.backend }

theorem nextTicket_undergo (r : Registry) (x : Incident) :
    r.nextTicket ≤ (r.undergo x).nextTicket := by
  cases x with
  | call op =>
    simp only [undergo, Registry.send]
    split
    · exact Nat.le_refl _
    · exact Nat.le_refl _
    · split
      · exact Nat.le_refl _
      · exact Nat.le_succ _
  | turn =>
    simp only [undergo, Registry.turn]
    split
    · exact Nat.le_refl _
    · exact Nat.le_refl _
  | cancel | close | change => exact Nat.le_refl _

/-- The call that is accepted at an incident, if one is. -/
def accepted? (r : Registry) : Incident → Option Call
  | .call op => (r.send 0 op).1.toOption.map fun ticket => (ticket, op)
  | _ => none

/-- The calls that the actor starts on at an incident. -/
def startedAt (r : Registry) : Incident → List Ticket
  | .turn => r.actors[0]?.toList.flatMap fun a => a.starts r.backend
  | _ => []

/-- What callers are answered at an incident. -/
def answeredAt (r : Registry) : Incident → Actor.Answers
  | .turn => (r.turn 0).2
  | _ => []

/-- A registry with an account of the calls of its actor: those that were accepted, the tickets of
those that were started on, and the answers, each in the order in which it came to pass. -/
structure Account where
  registry : Registry
  accepted : List Call := []
  started : List Ticket := []
  answers : Actor.Answers := []

/-- The account behind an incident. -/
def Account.note (s : Account) (x : Incident) : Account where
  registry := s.registry.undergo x
  accepted := s.accepted ++ (s.registry.accepted? x).toList
  started := s.started ++ s.registry.startedAt x
  answers := s.answers ++ s.registry.answeredAt x

/-- The account of a registry with one actor. -/
def accountOf (setup : ProjectSetup) (b : Backend) (project : Text) (events : List Incident) :
    Account :=
  events.foldl Account.note { registry := staffed setup b project }

namespace Account

variable {setup : ProjectSetup} {project : Text} {b₀ : Backend} {fs : List Change} {s : Account}
  {a : Actor} {taken waiting : List Call} {finished : List (Call × Outcome)}
  {underWay : Option (Call × Routine Answer)}

theorem note_of_refused {e : ProjectError} {op : Operation}
    (h : s.registry.send 0 op = (.error e, s.registry)) : s.note (.call op) = s := by
  simp [note, undergo, accepted?, startedAt, answeredAt, h, Except.toOption]

theorem note_of_accepted {ticket : Ticket} {op : Operation} {r : Registry}
    (h : s.registry.send 0 op = (.ok ticket, r)) :
    s.note (.call op) = { s with registry := r, accepted := s.accepted ++ [(ticket, op)] } := by
  simp [note, undergo, accepted?, startedAt, answeredAt, h, Except.toOption]

theorem note_cancel (s : Account) (ticket : Ticket) :
    s.note (.cancel ticket) = { s with registry := s.registry.cancel ticket } := by
  simp [note, undergo, accepted?, startedAt, answeredAt]

theorem note_close (s : Account) :
    s.note .close = { s with registry := s.registry.closeActor 0 } := by
  simp [note, undergo, accepted?, startedAt, answeredAt]

theorem note_change (s : Account) (f : Change) :
    s.note (.change f) =
      { s with registry := { s.registry with backend := f s.registry.backend } } := by
  simp [note, undergo, accepted?, startedAt, answeredAt]

theorem note_turn (h : s.registry.actors = [a]) :
    s.note .turn = { s with
      registry := { s.registry with
        actors := [(a.turn s.registry.backend).1]
        backend := (a.turn s.registry.backend).2.1 }
      started := s.started ++ a.starts s.registry.backend
      answers := s.answers ++ (a.turn s.registry.backend).2.2 } := by
  simp [note, undergo, accepted?, startedAt, answeredAt, Registry.turn, setActor, h]

/-- What an incident makes of the actor: a refused call and a change by others leave it as it is. -/
inductive Meets (s : Account) (a : Actor) : Incident → Actor → Prop
  | refused (op : Operation) (h : s.note (.call op) = s) : Meets s a (.call op) a
  | accepted (op : Operation) (r : Routine Answer) (h : a.closed = false) : Meets s a (.call op)
      { a with queue := a.queue ++ [⟨s.registry.nextTicket, r⟩] }
  | cancelled (ticket : Ticket) : Meets s a (.cancel ticket) (a.cancel ticket)
  | closed : Meets s a .close a.close
  | turned : Meets s a .turn (a.turn s.registry.backend).1
  | changed (f : Change) : Meets s a (.change f) a

/-- The actor is at its serial work on the accepted calls: it has taken some of them, in the order
in which they were accepted, and has passed over those alone that were given up; the finished ones
are answered unless they were given up. -/
structure Ordered (setup : ProjectSetup) (project : Text) (b₀ : Backend) (fs : List Change)
    (s : Account) (a : Actor) (taken waiting : List Call) (finished : List (Call × Outcome))
    (underWay : Option (Call × Routine Answer)) : Prop where
  settings : s.registry.setup = setup
  actors : s.registry.actors = [a]
  ours : a.project = project
  work : a.AtWork setup project b₀ fs s.registry.backend waiting finished underWay
  accepted : s.accepted = taken ++ waiting
  rising : (s.accepted.map Prod.fst).Pairwise (· < ·)
  next : ∀ c ∈ s.accepted, c.1 < s.registry.nextTicket
  begun : (finished.map Prod.fst ++ (underWay.map Prod.fst).toList).Sublist taken
  started : s.started = (finished.map Prod.fst ++ (underWay.map Prod.fst).toList).map Prod.fst
  passed : ∀ c ∈ taken, c.1 ∈ s.started ∨ c.1 ∈ a.cancelled
  answers : s.answers.Sublist (finished.map fun f => (f.1.1, f.2))
  answered : ∀ f ∈ finished, f.1.1 ∈ a.cancelled ∨ (f.1.1, f.2) ∈ s.answers

theorem ordered_staffed (setup : ProjectSetup) (b : Backend) (project : Text) :
    Ordered setup project b [] { registry := staffed setup b project } { project := project }
      [] [] [] none where
  settings := rfl
  actors := rfl
  ours := rfl
  work := ⟨rfl, rfl, fun _ h => (nomatch h), .start⟩
  accepted := rfl
  rising := .nil
  next _ h := nomatch h
  begun := .slnil
  started := rfl
  passed _ h := nomatch h
  answers := .slnil
  answered _ h := nomatch h

namespace Ordered

theorem actor (h : Ordered setup project b₀ fs s a taken waiting finished underWay) :
    s.registry.actors[0]? = some a := by
  rw [h.actors]
  rfl

/-- An accepted call waits behind all others. -/
theorem call (h : Ordered setup project b₀ fs s a taken waiting finished underWay)
    (op : Operation) :
    ∃ a' waiting', Meets s a (.call op) a' ∧
      Ordered setup project b₀ fs (s.note (.call op)) a' taken waiting' finished underWay := by
  rcases s.registry.send_cases 0 op with ⟨e, hsend, -⟩ | ⟨x, hx, -, hopen, hsend⟩
  · have hnote := note_of_refused hsend
    refine ⟨a, waiting, .refused op hnote, ?_⟩
    rw [hnote]
    exact h
  · cases h.actor.symm.trans hx
    rw [note_of_accepted hsend]
    refine ⟨{ a with queue := a.queue ++
      [⟨s.registry.nextTicket, op.routine s.registry.setup a.project⟩] },
      waiting ++ [(s.registry.nextTicket, op)], .accepted op _ hopen,
      ⟨h.settings, ?_, h.ours, ⟨?_, h.work.current, h.work.pending, h.work.serial⟩, ?_, ?_, ?_,
        h.begun, h.started, h.passed, h.answers, h.answered⟩⟩
    · rw [setActor, h.actors]
      rfl
    · rw [List.map_append, ← h.work.queue, h.settings, h.ours]
      rfl
    · rw [h.accepted, List.append_assoc]
    · rw [List.map_append, List.pairwise_append]
      refine ⟨h.rising, List.pairwise_singleton .., fun t ht t' ht' => ?_⟩
      obtain ⟨c, hc, rfl⟩ := List.mem_map.mp ht
      rw [List.mem_singleton.mp ht']
      exact h.next c hc
    · intro c hc
      rcases List.mem_append.mp hc with hc | hc
      · exact (h.next c hc).trans (Nat.lt_succ_self _)
      · rw [List.mem_singleton.mp hc]
        exact Nat.lt_succ_self _

theorem cancel (h : Ordered setup project b₀ fs s a taken waiting finished underWay)
    (ticket : Ticket) :
    Ordered setup project b₀ fs (s.note (.cancel ticket)) (a.cancel ticket) taken waiting finished
      underWay := by
  rw [note_cancel]
  refine ⟨h.settings, ?_, h.ours, ⟨h.work.queue, h.work.current, h.work.pending, h.work.serial⟩,
    h.accepted, h.rising, h.next, h.begun, h.started, fun c hc => ?_, h.answers, fun f hf => ?_⟩
  · rw [Registry.cancel, h.actors]
    rfl
  · exact (h.passed c hc).imp_right (List.mem_cons_of_mem _)
  · exact (h.answered f hf).imp_left (List.mem_cons_of_mem _)

theorem close (h : Ordered setup project b₀ fs s a taken waiting finished underWay) :
    Ordered setup project b₀ fs (s.note .close) a.close taken waiting finished underWay := by
  rw [note_close]
  refine ⟨h.settings, ?_, h.ours, ⟨h.work.queue, h.work.current, h.work.pending, h.work.serial⟩,
    h.accepted, h.rising, h.next, h.begun, h.started, h.passed, h.answers, h.answered⟩
  rw [closeActor, h.actors]
  rfl

theorem change (h : Ordered setup project b₀ fs s a taken waiting finished underWay) (f : Change) :
    Ordered setup project b₀ (fs ++ [f]) (s.note (.change f)) a taken waiting finished
      underWay := by
  rw [note_change]
  exact ⟨h.settings, h.actors, h.ours,
    ⟨h.work.queue, h.work.current, h.work.pending, h.work.serial.change f⟩,
    h.accepted, h.rising, h.next, h.begun, h.started, h.passed, h.answers, h.answered⟩

/-- At a turn, calls are taken in order, and finished ones are answered to those who still wait. -/
theorem turn (h : Ordered setup project b₀ fs s a taken waiting finished underWay) :
    ∃ taken' waiting' finished' underWay',
      Ordered setup project b₀ fs (s.note .turn) (a.turn s.registry.backend).1 taken' waiting'
        finished' underWay' := by
  obtain ⟨more, rest, done, underWay', rfl, hwork, hbegun, hanswers⟩ := h.work.turn
  obtain ⟨hcancelled, hon⟩ := a.turn_keeps s.registry.backend
  have hstarts := h.work.starts_eq rfl hwork.queue
  rw [note_turn h.actors]
  refine ⟨taken ++ more, rest, finished ++ done, underWay',
    ⟨h.settings, rfl, hon.project.trans h.ours, hwork, ?_, h.rising, h.next, ?_, ?_, ?_, ?_, ?_⟩⟩
  · rw [h.accepted, List.append_assoc]
  · rw [List.map_append, List.append_assoc, ← hbegun, ← List.append_assoc]
    exact h.begun.append List.filter_sublist
  · have hnew := congrArg (List.map Prod.fst) hbegun
    simp only [List.map_append] at hnew
    simp only [h.started, hstarts, List.map_append, List.append_assoc, hnew]
  · intro c hc
    rw [hcancelled]
    rcases List.mem_append.mp hc with hc | hc
    · exact (h.passed c hc).imp_left (List.mem_append_left _)
    · by_cases hgiven : c.1 ∈ a.cancelled
      · exact .inr hgiven
      · refine .inl (List.mem_append_right _ ?_)
        rw [hstarts]
        exact List.mem_map_of_mem (List.mem_filter.mpr ⟨hc, by simpa using hgiven⟩)
  · rw [hanswers, List.map_append]
    exact h.answers.append (List.filter_sublist.map _)
  · intro f hf
    rw [hcancelled, hanswers]
    rcases List.mem_append.mp hf with hf | hf
    · exact (h.answered f hf).imp_right (List.mem_append_left _)
    · by_cases hgiven : f.1.1 ∈ a.cancelled
      · exact .inl hgiven
      · refine .inr (List.mem_append_right _ ?_)
        exact List.mem_map_of_mem (f := fun f : Call × Outcome => (f.1.1, f.2))
          (List.mem_filter.mpr ⟨hf, by simpa using hgiven⟩)

/-- An incident leaves the account in order, with the change that was made if it is one. -/
theorem note (h : Ordered setup project b₀ fs s a taken waiting finished underWay)
    (x : Incident) :
    ∃ a' taken' waiting' finished' underWay', Meets s a x a' ∧
      Ordered setup project b₀ (fs ++ x.change?.toList) (s.note x) a' taken' waiting' finished'
        underWay' := by
  have hfs : fs = fs ++ [] := (List.append_nil fs).symm
  cases x with
  | change f => exact ⟨_, _, _, _, _, .changed f, h.change f⟩
  | call op =>
    obtain ⟨a', waiting', hmeets, h⟩ := h.call op
    exact ⟨_, _, _, _, _, hmeets, hfs ▸ h⟩
  | cancel ticket => exact ⟨_, _, _, _, _, .cancelled ticket, hfs ▸ h.cancel ticket⟩
  | close => exact ⟨_, _, _, _, _, .closed, hfs ▸ h.close⟩
  | turn =>
    obtain ⟨taken', waiting', finished', underWay', h⟩ := h.turn
    exact ⟨_, _, _, _, _, .turned, hfs ▸ h⟩

end Ordered

/-- What stays along a run of incidents: what was given up before it was started on is not started on
later, a closed actor stays closed and accepts no call, and every turn brings the accepted calls
closer to their end. -/
structure Leads (s : Account) (a : Actor) (events : List Incident) (s' : Account) (a' : Actor) :
    Prop where
  next : s.registry.nextTicket ≤ s'.registry.nextTicket
  given : ∀ ticket ∈ a.cancelled, ticket ∈ a'.cancelled
  givenUp : ∀ ticket ∈ a'.cancelled, ticket ∈ a.cancelled ∨ .cancel ticket ∈ events
  closed : a.closed = true → a'.closed = true
  shut : a.closed = true → s'.accepted = s.accepted
  spared : ∀ ticket ∈ a.cancelled, ticket ∉ s.started → ticket ∉ s'.started
  due : ∀ ticket < s.registry.nextTicket, ∀ n, a.Due ticket n →
    a'.Due ticket (n - events.countP Incident.isTurn)

theorem Leads.refl (s : Account) (a : Actor) : Leads s a [] s a :=
  ⟨Nat.le_refl _, fun _ h => h, fun _ h => .inl h, id, fun _ => rfl, fun _ _ h => h,
    fun _ _ _ h => h⟩

theorem Leads.trans {s' s'' : Account} {a' a'' : Actor} {xs ys : List Incident}
    (h : Leads s a xs s' a') (h' : Leads s' a' ys s'' a'') : Leads s a (xs ++ ys) s'' a'' where
  next := h.next.trans h'.next
  given ticket ht := h'.given ticket (h.given ticket ht)
  givenUp ticket ht := by
    rcases h'.givenUp ticket ht with ht | ht
    · exact (h.givenUp ticket ht).imp_right (List.mem_append_left _)
    · exact .inr (List.mem_append_right _ ht)
  closed hc := h'.closed (h.closed hc)
  shut hc := (h'.shut (h.closed hc)).trans (h.shut hc)
  spared ticket ht hs := h'.spared ticket (h.given ticket ht) (h.spared ticket ht hs)
  due ticket ht n hn := by
    rw [List.countP_append, Nat.sub_add_eq]
    exact h'.due ticket (ht.trans_le h.next) _ (h.due ticket ht n hn)

/-- What an incident makes of the actor follows what stays along a run. -/
theorem Ordered.leads (h : Ordered setup project b₀ fs s a taken waiting finished underWay)
    {x : Incident} {a' : Actor} (hx : Meets s a x a') : Leads s a [x] (s.note x) a' := by
  have hnext := s.registry.nextTicket_undergo x
  have hshut (hs : s.registry.accepted? x = none) : (s.note x).accepted = s.accepted := by
    rw [Account.note, hs]
    exact List.append_nil _
  have hstill (hs : s.registry.startedAt x = []) : (s.note x).started = s.started := by
    rw [Account.note, hs, List.append_nil]
  cases hx with
  | refused op hnote =>
    rw [hnote]
    exact { Leads.refl s a with givenUp := fun _ h => .inl h, due := fun _ _ _ h => h }
  | accepted op r hopen =>
    exact ⟨hnext, fun _ h => h, fun _ h => .inl h, id, fun hc => absurd hc (by simp [hopen]),
      fun _ _ h => hstill rfl ▸ h, fun ticket ht _ h => h.behind ht.ne'⟩
  | cancelled ticket =>
    refine ⟨hnext, fun _ => List.mem_cons_of_mem _, fun t ht => ?_, id, fun _ => hshut rfl,
      fun _ _ h => hstill rfl ▸ h, fun _ _ _ h => h.congr rfl rfl⟩
    rcases List.mem_cons.mp ht with rfl | ht
    · exact .inr (List.mem_singleton.mpr rfl)
    · exact .inl ht
  | closed =>
    exact ⟨hnext, fun _ h => h, fun _ h => .inl h, fun _ => rfl, fun _ => hshut rfl,
      fun _ _ h => hstill rfl ▸ h, fun _ _ _ h => h.congr rfl rfl⟩
  | changed =>
    exact ⟨hnext, fun _ h => h, fun _ h => .inl h, id, fun _ => hshut rfl,
      fun _ _ h => hstill rfl ▸ h, fun _ _ _ h => h⟩
  | turned =>
    obtain ⟨hcancelled, hon⟩ := a.turn_keeps s.registry.backend
    refine ⟨hnext, fun _ h => hcancelled ▸ h, fun _ h => .inl (hcancelled ▸ h),
      fun hc => hon.closed.trans hc, fun _ => hshut rfl, fun ticket hgiven hnot => ?_,
      fun _ _ n hdue => ?_⟩
    · rw [note_turn h.actors, List.mem_append]
      exact not_or.mpr ⟨hnot, Actor.not_mem_starts_of_cancelled hgiven⟩
    · exact hdue.turn h.work.within_of_mem_queue fun job hjob => (h.work.of_mem_current job hjob).1

/-- Behind any incidents, the account is still in order. -/
theorem Ordered.foldl_note (h : Ordered setup project b₀ fs s a taken waiting finished underWay)
    (events : List Incident) :
    ∃ a' taken' waiting' finished' underWay',
      Leads s a events (events.foldl Account.note s) a' ∧
      Ordered setup project b₀ (fs ++ events.filterMap Incident.change?)
        (events.foldl Account.note s) a' taken' waiting' finished' underWay' := by
  induction events generalizing s a fs taken waiting finished underWay with
  | nil =>
    refine ⟨a, taken, waiting, finished, underWay, Leads.refl s a, ?_⟩
    rw [List.filterMap_nil, List.append_nil]
    exact h
  | cons x events ih =>
    obtain ⟨a', taken', waiting', finished', underWay', hmeets, h'⟩ := h.note x
    obtain ⟨a'', taken'', waiting'', finished'', underWay'', hleads, h''⟩ := ih h'
    have hchanges : (x :: events).filterMap Incident.change? =
        x.change?.toList ++ events.filterMap Incident.change? := by
      cases x <;> rfl
    refine ⟨a'', taken'', waiting'', finished'', underWay'', (h.leads hmeets).trans hleads, ?_⟩
    rw [hchanges, ← List.append_assoc]
    exact h''

/-- An accepted call waits behind those that were accepted before it and are not finished. -/
theorem Ordered.due (h : Ordered setup project b₀ fs s a taken waiting finished underWay) {c : Call}
    (hc : c ∈ s.accepted) : a.Due c.1 (4 * s.accepted.length) := by
  have hrising := h.rising
  have hlength := congrArg List.length h.accepted
  have hpositive := List.length_pos_of_mem hc
  have hcurrent : ∀ job ∈ a.current, job.routine.Within 3 :=
    fun job hjob => (h.work.of_mem_current job hjob).2
  have hothers {calls : List Call} (hne : ∀ d ∈ calls, c.1 < d.1) :
      ∀ job ∈ calls.map (Job.ofCall setup project), job.ticket ≠ c.1 := by
    intro job hjob
    obtain ⟨d, hd, rfl⟩ := List.mem_map.mp hjob
    exact (hne d hd).ne'
  rw [h.accepted, List.map_append, List.pairwise_append] at hrising
  rw [h.accepted, List.mem_append] at hc
  rw [List.length_append] at hlength
  rcases hc with hc | hc
  · refine .taken ?_ fun job hjob _ => (hcurrent job hjob).mono (by omega)
    rw [h.work.queue]
    exact hothers fun d hd =>
      hrising.2.2 _ (List.mem_map_of_mem hc) _ (List.mem_map_of_mem hd)
  · obtain ⟨ahead, behind, rfl⟩ := List.append_of_mem hc
    have hbehind : ∀ d ∈ behind, c.1 < d.1 := by
      have hafter := hrising.2.1
      rw [List.map_append, List.pairwise_append] at hafter
      exact fun d hd => (List.pairwise_cons.mp hafter.2.1).1 _ (List.mem_map_of_mem hd)
    have hqueue := h.work.queue
    rw [List.map_append, List.map_cons] at hqueue
    rw [List.length_append, List.length_cons] at hlength
    -- the call under way is one of those that were taken
    cases hu : underWay with
    | none =>
      refine .waiting _ _ _ 0 hqueue (hothers hbehind) (fun job hjob => ?_) ?_
      · rw [h.work.current, hu] at hjob
        cases hjob
      · rw [List.length_map]
        omega
    | some u =>
      have htaken := h.begun.length_le
      rw [hu, List.length_append, Option.map_some, Option.toList_some, List.length_singleton]
        at htaken
      refine .waiting _ _ _ 3 hqueue (hothers hbehind) hcurrent ?_
      rw [List.length_map]
      omega

theorem Ordered.eq_of_ticket_eq
    (h : Ordered setup project b₀ fs s a taken waiting finished underWay) {c d : Call}
    (hc : c ∈ s.accepted) (hd : d ∈ s.accepted) (hticket : c.1 = d.1) : c = d :=
  List.inj_on_of_nodup_map (h.rising.imp ne_of_lt) hc hd hticket

/-- The call under way stands at a store call, so it needs a turn. -/
theorem Ordered.not_due_of_underWay
    (h : Ordered setup project b₀ fs s a taken waiting finished underWay)
    {u : Call × Routine Answer} (hu : u ∈ underWay) : ¬ a.Due u.1.1 0 := by
  intro hdue
  cases hdue with
  | waiting _ _ _ _ _ _ _ hbound => omega
  | taken _ hleft =>
    have hjob : (⟨u.1.1, u.2⟩ : Job) ∈ a.current := by
      rw [h.work.current]
      exact Option.mem_map_of_mem _ hu
    have hsome := (hleft _ hjob rfl).resume (h.work.pending u hu).1 a.memory s.registry.backend
    exact Nat.lt_irrefl 0 hsome.1

theorem Ordered.not_due_of_waiting
    (h : Ordered setup project b₀ fs s a taken waiting finished underWay) {c : Call}
    (hc : c ∈ waiting) : ¬ a.Due c.1 0 := by
  intro hdue
  cases hdue with
  | waiting _ _ _ _ _ _ _ hbound => omega
  | taken hgone _ => exact hgone _ (h.work.queue ▸ List.mem_map_of_mem hc) rfl

/-- A call for which no turn is needed any more is finished, or was given up in time. -/
theorem Ordered.finished_or_passed
    (h : Ordered setup project b₀ fs s a taken waiting finished underWay) {c : Call}
    (hc : c ∈ s.accepted) (hdue : a.Due c.1 0) :
    c ∈ finished.map Prod.fst ∨ c.1 ∈ a.cancelled ∧ c.1 ∉ s.started := by
  have htaken : c ∈ taken := (List.mem_append.mp (h.accepted ▸ hc)).resolve_right fun hw =>
    h.not_due_of_waiting hw hdue
  by_cases hs : c.1 ∈ s.started
  · refine .inl ?_
    rw [h.started] at hs
    obtain ⟨d, hd, hticket⟩ := List.mem_map.mp hs
    have hbegun : d ∈ s.accepted := h.accepted ▸ List.mem_append_left _ (h.begun.subset hd)
    obtain rfl := h.eq_of_ticket_eq hbegun hc hticket
    refine (List.mem_append.mp hd).resolve_right fun hd => ?_
    obtain ⟨u, hu, rfl⟩ := Option.mem_map.mp (Option.mem_toList.mp hd)
    exact h.not_due_of_underWay hu hdue
  · exact .inr ⟨(h.passed c htaken).resolve_left hs, hs⟩

theorem Ordered.isIdle (h : Ordered setup project b₀ fs s a taken waiting finished underWay)
    (hdue : ∀ c ∈ s.accepted, a.Due c.1 0) : a.isIdle = true := by
  have hgone : waiting = [] := List.eq_nil_iff_forall_not_mem.mpr fun c hc =>
    h.not_due_of_waiting hc (hdue c (h.accepted ▸ List.mem_append_right _ hc))
  have hnone : underWay = none := Option.eq_none_iff_forall_ne_some.mpr fun u hu => by
    have hbegun := h.begun.subset (List.mem_append_right _
      (Option.mem_toList.mpr (Option.mem_map_of_mem Prod.fst hu)))
    exact h.not_due_of_underWay hu (hdue u.1 (h.accepted ▸ List.mem_append_left _ hbegun))
  rw [Actor.isIdle, h.work.queue, h.work.current, hgone, hnone]
  rfl

theorem Ordered.leads_to (h : Ordered setup project b₀ fs s a taken waiting finished underWay)
    {events : List Incident} {a' : Actor}
    (ha' : (events.foldl Account.note s).registry.actors = [a']) :
    Leads s a events (events.foldl Account.note s) a' := by
  obtain ⟨a'', _, _, _, _, hleads, h''⟩ := h.foldl_note events
  have heq : [a'] = [a''] := ha'.symm.trans h''.actors
  cases heq
  exact hleads

/-- The call was carried out to its end, or its caller gave it up before it was started on. -/
def Over (events : List Incident) (s : Account) (finished : List (Call × Outcome)) (c : Call) :
    Prop :=
  c ∈ finished.map Prod.fst ∨ .cancel c.1 ∈ events ∧ c.1 ∉ s.started

end Account

open Account

/-- What clients can rely on behind any incidents `events` of the account `s`, while the actor is
`a`, has finished calls and may have one under way. -/
structure Served (setup : ProjectSetup) (b : Backend) (project : Text) (events : List Incident)
    (s : Account) (a : Actor) (finished : List (Call × Outcome))
    (underWay : Option (Call × Routine Answer)) : Prop where
  actor : s.registry.actors = [a]
  /-- The calls are carried out one at a time, each on what the one before it has left. -/
  serial : Serial setup project b (events.filterMap Incident.change?) finished underWay a.memory
    s.registry.backend
  /-- No call is started on twice, and none before one that was accepted earlier. -/
  started : s.started =
    (finished.map Prod.fst ++ (underWay.map Prod.fst).toList).map Prod.fst
  order : (finished.map Prod.fst ++ (underWay.map Prod.fst).toList).Sublist s.accepted
  rising : (s.accepted.map Prod.fst).Pairwise (· < ·)
  /-- Unless others change what is shared, each outcome is the one that it has when the calls that
  were carried out run one after another. -/
  outcomes : events.filterMap Incident.change? = [] →
    (Operation.runAll setup project (finished.map fun f => f.1.2) {} b).1 = finished.map Prod.snd
  /-- A call that is given up before it is started on is never carried out. -/
  spared : ∀ earlier later ticket, events = earlier ++ .cancel ticket :: later →
    ticket ∉ (accountOf setup b project earlier).started → ticket ∉ s.started
  /-- Whether a call fails or not, the answer to it is its own outcome, and it is answered once,
  unless it was given up. -/
  answers : s.answers.Sublist (finished.map fun f => (f.1.1, f.2))
  once : (s.answers.map Prod.fst).Nodup
  answered : ∀ f ∈ finished, .cancel f.1.1 ∉ events → (f.1.1, f.2) ∈ s.answers
  /-- Given turns enough, the actor is done with every call that it has accepted. -/
  progress : ∀ earlier later, events = earlier ++ later →
    4 * (accountOf setup b project earlier).accepted.length ≤ later.countP Incident.isTurn →
      ∀ c ∈ (accountOf setup b project earlier).accepted, Over events s finished c
  idle : a.isIdle = true → ∀ c ∈ s.accepted, Over events s finished c
  /-- A closed actor refuses every later call that is not refused for its arguments. -/
  closed : .close ∈ events → a.closed = true ∧ ∀ op, s.registry.send 0 op =
    (.error (match op.check with | .ok _ => .closed project | .error e => e), s.registry)
  /-- Who closes the actor waits until it has nothing more to do, and that time comes. -/
  returns : ∀ earlier later, events = earlier ++ .close :: later →
    4 * (accountOf setup b project earlier).accepted.length ≤ later.countP Incident.isTurn →
      a.isIdle = true

theorem ordered_accountOf (setup : ProjectSetup) (b : Backend) (project : Text)
    (events : List Incident) :
    ∃ a taken waiting finished underWay,
      Ordered setup project b (events.filterMap Incident.change?)
        (accountOf setup b project events) a taken waiting finished underWay := by
  obtain ⟨a, taken, waiting, finished, underWay, -, h⟩ :=
    (ordered_staffed setup b project).foldl_note events
  exact ⟨a, taken, waiting, finished, underWay, h⟩

theorem accountOf_append (setup : ProjectSetup) (b : Backend) (project : Text)
    (earlier later : List Incident) :
    accountOf setup b project (earlier ++ later) =
      later.foldl Account.note (accountOf setup b project earlier) :=
  List.foldl_append

theorem accountOf_append_cons (setup : ProjectSetup) (b : Backend) (project : Text)
    (earlier : List Incident) (x : Incident) (later : List Incident) :
    accountOf setup b project (earlier ++ x :: later) =
      later.foldl Account.note ((accountOf setup b project earlier).note x) :=
  List.foldl_append

variable {setup : ProjectSetup} {b : Backend} {project : Text} {fs : List Change}
  {a : Actor} {taken waiting : List Call} {finished : List (Call × Outcome)}
  {underWay : Option (Call × Routine Answer)} {earlier later : List Incident}

theorem leads_accountOf {events : List Incident}
    (ha : (accountOf setup b project events).registry.actors = [a]) :
    Leads { registry := staffed setup b project } { project := project } events
      (accountOf setup b project events) a :=
  (ordered_staffed setup b project).leads_to ha

/-- What is given up behind `earlier` and not started on by then is never started on. -/
theorem not_mem_started_of_cancel {ticket : Ticket}
    (ha : (accountOf setup b project (earlier ++ .cancel ticket :: later)).registry.actors = [a])
    (hnot : ticket ∉ (accountOf setup b project earlier).started) :
    ticket ∉ (accountOf setup b project (earlier ++ .cancel ticket :: later)).started := by
  obtain ⟨a₁, _, _, _, _, h⟩ := ordered_accountOf setup b project earlier
  rw [accountOf_append_cons] at ha ⊢
  refine ((h.cancel ticket).leads_to ha).spared ticket List.mem_cons_self ?_
  rw [note_cancel]
  exact hnot

/-- With four turns for every call accepted so far, no turn is needed any more for any of them. -/
theorem due_zero_of_turns
    (ha : (accountOf setup b project (earlier ++ later)).registry.actors = [a])
    (hturns : 4 * (accountOf setup b project earlier).accepted.length ≤
      later.countP Incident.isTurn) {c : Call}
    (hc : c ∈ (accountOf setup b project earlier).accepted) : a.Due c.1 0 := by
  obtain ⟨a₁, _, _, _, _, h⟩ := ordered_accountOf setup b project earlier
  rw [accountOf_append] at ha
  exact ((h.leads_to ha).due c.1 (h.next c hc) _ (h.due hc)).mono (by omega)

theorem closed_of_close
    (ha : (accountOf setup b project (earlier ++ .close :: later)).registry.actors = [a]) :
    a.closed = true ∧ (accountOf setup b project (earlier ++ .close :: later)).accepted =
      (accountOf setup b project earlier).accepted := by
  obtain ⟨a₁, _, _, _, _, h⟩ := ordered_accountOf setup b project earlier
  rw [accountOf_append_cons] at ha ⊢
  have hleads := h.close.leads_to ha
  refine ⟨hleads.closed rfl, (hleads.shut rfl).trans ?_⟩
  rw [note_close]

theorem due_zero_of_isIdle (h : a.isIdle = true) (ticket : Ticket) : a.Due ticket 0 := by
  rw [Actor.isIdle, Bool.and_eq_true, List.isEmpty_iff, Option.isNone_iff_eq_none] at h
  exact .taken (by simp [h.1]) (by simp [h.2])

/-- Every call that the actor has accepted is over, once it needs no turn any more. -/
theorem over_of_due {events : List Incident} {c : Call}
    (h : Ordered setup project b fs (accountOf setup b project events) a taken waiting finished
      underWay)
    (hc : c ∈ (accountOf setup b project events).accepted) (hdue : a.Due c.1 0) :
    Over events (accountOf setup b project events) finished c := by
  refine (h.finished_or_passed hc hdue).imp_right fun ⟨hgiven, hnot⟩ => ⟨?_, hnot⟩
  exact ((leads_accountOf h.actors).givenUp c.1 hgiven).resolve_left (fun h => nomatch h)

/-- Calls stay accepted. -/
theorem accepted_subset (setup : ProjectSetup) (b : Backend) (project : Text)
    (earlier later : List Incident) :
    (accountOf setup b project earlier).accepted ⊆
      (accountOf setup b project (earlier ++ later)).accepted := by
  rw [accountOf_append]
  induction later generalizing earlier with
  | nil => exact fun _ h => h
  | cons x later ih =>
    have h := ih (earlier ++ [x])
    rw [accountOf_append] at h
    exact fun c hc => h (List.mem_append_left _ hc)

/-- Of four calls one fails, as there is no such project, and one is given up while it waits; no call
is accepted once the actor is closed. -/
def closingRun : List Incident :=
  [.call (.history none), .call .status, .call .status, .turn, .call (.history none), .cancel 2,
    .close, .call .status, .turn, .turn, .turn]

example :
    let s := accountOf {} { clock := { now := { seconds := 0 } } } "p1" closingRun
    (s.accepted.map Prod.fst, s.started, s.answers.map fun a => (a.1, a.2.toOption.isSome)) =
      ([0, 1, 2, 3], [0, 1, 3], [(0, true), (1, false), (3, true)]) := by
  decide +kernel

end Registry

end SitePreview
