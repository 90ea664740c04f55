import SitePreview.Proofs.Project.Interleaving

/-! Handing over. A registry hands out one actor after another for a project, and every new one
finds all earlier ones closed. These may still have messages to answer: all but the last one are
done as long as nobody asks for an actor of the project while an earlier one is not. -/

namespace SitePreview

/-- An actor goes on as one of the same project, and once it is closed it takes nothing more. -/
structure Actor.Retires (a a' : Actor) : Prop where
  project : a'.project = a.project
  closed : a.closed = true → a'.closed = true
  idle : a.closed = true → a.isIdle = true → a'.isIdle = true

namespace Actor

variable {a : Actor} {b : Backend}

theorem Retires.refl (a : Actor) : a.Retires a := ⟨rfl, id, fun _ => id⟩

theorem turn_of_isIdle (h : a.isIdle = true) (b : Backend) : a.turn b = (a, b, []) := by
  obtain ⟨project, memory, queue, current, cancelled, closed⟩ := a
  simp only [isIdle, Bool.and_eq_true, List.isEmpty_iff, Option.isNone_iff_eq_none] at h
  obtain ⟨rfl, rfl⟩ := h
  rfl

theorem Intact.retires_turn (h : a.Intact) (hb : b.Intact) : a.Retires (a.turn b).1 := by
  obtain ⟨-, hon, -, -⟩ := h.turn hb
  refine ⟨hon.project, fun hclosed => hon.closed.trans hclosed, fun _ hidle => ?_⟩
  rw [turn_of_isIdle hidle]
  exact hidle

end Actor

namespace Registry

/-- What tasks do to a registry and to the actors that they were given, and what happens
meanwhile. -/
inductive Move
  | get (project : Text)
  | release (project : Text)
  | send (n : Nat) (op : Operation)
  | close (n : Nat)
  | cancel (ticket : Ticket)
  | turn (n : Nat)
  | setFaults (f : Faults)
  | setClock (t : Clock)

def move (r : Registry) : Move → Registry
  | .get project => r.step (.start project)
  | .release project => r.release project
  | .send n op => (r.send n op).2
  | .close n => r.closeActor n
  | .cancel ticket => r.cancel ticket
  | .turn n => (r.turn n).1
  | .setFaults f => r.step (.setFaults f)
  | .setClock t => r.step (.setClock t)

variable {r : Registry} {project : Text} {n k : Nat} {a a' : Actor} {x : Move}

theorem Intact.move (h : r.Intact) (x : Move) : (r.move x).Intact := by
  cases x with
  | get p => exact h.step (.start p)
  | release p => exact h.step (.release p)
  | send n op => exact (h.send n op).1
  | close n => exact h.closeActor n
  | cancel ticket => exact h.cancel ticket
  | turn n => exact (h.turn n).1
  | setFaults f => exact h.step (.setFaults f)
  | setClock t => exact h.step (.setClock t)

/-- Where one actor was changed, all actors went on if this one did. -/
theorem exists_retires_of_setActor (h : r.actors[n]? = some a) (ha : a.Retires a')
    {y : Actor} (hy : (r.setActor n a').actors[k]? = some y) :
    ∃ x, r.actors[k]? = some x ∧ x.Retires y := by
  rw [getElem?_setActor h] at hy
  split at hy
  · next hk =>
    cases hy
    exact ⟨a, hk ▸ h, ha⟩
  · exact ⟨y, hy, .refl y⟩

theorem exists_retires_of_closeActor {y : Actor} (hy : (r.closeActor n).actors[k]? = some y) :
    ∃ x, r.actors[k]? = some x ∧ x.Retires y := by
  rw [getElem?_closeActor, Option.map_eq_some_iff] at hy
  obtain ⟨x, hx, rfl⟩ := hy
  refine ⟨x, hx, ?_⟩
  split
  · exact ⟨rfl, fun _ => rfl, fun _ => id⟩
  · exact .refl x

/-- Who asks for an actor gets one that is there, or a new one if none is open. -/
theorem move_get_cases (r : Registry) (p : Text) :
    r.move (.get p) = r ∨ r.open? p = none ∧ r.move (.get p) = { r with
      actors := r.actors ++ [{ project := p }]
      known := setNumber p r.actors.length r.known } := by
  by_cases hp : p = []
  · rw [move, Registry.step, get, if_pos hp]
    exact .inl rfl
  rw [move, Registry.step, get, if_neg hp]
  cases r.open? p with
  | some n => exact .inl rfl
  | none => exact .inr ⟨rfl, rfl⟩

theorem exists_retires_of_send {op : Operation} {y : Actor}
    (hy : (r.send n op).2.actors[k]? = some y) : ∃ x, r.actors[k]? = some x ∧ x.Retires y := by
  rcases r.send_cases n op with ⟨e, hsend, -⟩ | ⟨a, hn, -, hopen, hsend⟩
  · rw [hsend] at hy
    exact ⟨y, hy, .refl y⟩
  · rw [hsend] at hy
    have hon : a.Retires { a with
        queue := a.queue ++ [⟨r.nextTicket, op.routine r.setup a.project⟩] } :=
      ⟨rfl, id, fun hclosed => absurd (hopen.symm.trans hclosed) Bool.false_ne_true⟩
    exact exists_retires_of_setActor hn hon hy

theorem exists_retires_of_cancel {ticket : Ticket} {y : Actor}
    (hy : (r.cancel ticket).actors[k]? = some y) : ∃ x, r.actors[k]? = some x ∧ x.Retires y := by
  have hget : (r.cancel ticket).actors[k]? = r.actors[k]?.map fun a => a.cancel ticket :=
    List.getElem?_map
  rw [hget, Option.map_eq_some_iff] at hy
  obtain ⟨a, ha, rfl⟩ := hy
  exact ⟨a, ha, ⟨rfl, id, fun _ => id⟩⟩

theorem exists_retires_of_turn (h : r.Intact) {y : Actor}
    (hy : (r.turn n).1.actors[k]? = some y) : ∃ x, r.actors[k]? = some x ∧ x.Retires y := by
  rw [Registry.turn] at hy
  cases hn : r.actors[n]? with
  | none =>
    rw [hn] at hy
    exact ⟨y, hy, .refl y⟩
  | some a =>
    rw [hn] at hy
    have ha := (h.actors a (List.mem_of_getElem? hn)).retires_turn h.backend
    exact exists_retires_of_setActor hn ha hy

/-- Behind a move, every actor is one that was there before and went on, or has just been started,
for a project none of whose actors was open. -/
theorem Intact.move_cases (h : r.Intact) {y : Actor} (hy : (r.move x).actors[k]? = some y) :
    (∃ a, r.actors[k]? = some a ∧ a.Retires y) ∨
      ∃ p, x = .get p ∧ r.open? p = none ∧ k = r.actors.length ∧ y = { project := p } := by
  cases x with
  | get p =>
    rcases r.move_get_cases p with hsame | ⟨ho, hstart⟩
    · rw [hsame] at hy
      exact .inl ⟨y, hy, .refl y⟩
    rw [hstart] at hy
    rcases Nat.lt_trichotomy k r.actors.length with hlt | rfl | hgt
    · rw [List.getElem?_append_left hlt] at hy
      exact .inl ⟨y, hy, .refl y⟩
    · rw [List.getElem?_concat_length] at hy
      exact .inr ⟨p, rfl, ho, rfl, (Option.some.inj hy).symm⟩
    · have hlt := (List.getElem?_eq_some_iff.mp hy).1
      rw [List.length_append, List.length_singleton] at hlt
      omega
  | release p =>
    rw [Registry.move, Registry.release] at hy
    split at hy
    · exact .inl ⟨y, hy, .refl y⟩
    · exact .inl (exists_retires_of_closeActor hy)
  | send n op => exact .inl (exists_retires_of_send hy)
  | close n => exact .inl (exists_retires_of_closeActor hy)
  | cancel ticket => exact .inl (exists_retires_of_cancel hy)
  | turn n => exact .inl (exists_retires_of_turn h hy)
  | setFaults | setClock => exact .inl ⟨y, hy, .refl y⟩

theorem Addressed.closed_of_open? (h : r.Addressed) (ho : r.open? project = none)
    (ha : a ∈ r.actors) (hp : a.project = project) : a.closed = true := by
  by_contra hopen
  obtain ⟨n, hn⟩ := List.mem_iff_getElem?.mp ha
  rw [← hp, h.open?_eq hn (by simpa using hopen)] at ho
  cases ho

/-- The actor of the project is asked for only while no closed actor of it has messages left. -/
def Orderly (project : Text) (r : Registry) : Move → Prop
  | .get p => p = project →
    ∀ a ∈ r.actors, a.project = project → a.closed = true → a.isIdle = true
  | _ => True

instance (project : Text) (r : Registry) : (x : Move) → Decidable (Orderly project r x)
  | .get p => inferInstanceAs (Decidable (p = project →
    ∀ a ∈ r.actors, a.project = project → a.closed = true → a.isIdle = true))
  | .release _ | .send _ _ | .close _ | .cancel _ | .turn _ | .setFaults _ | .setClock _ =>
    inferInstanceAs (Decidable True)

/-- All actors of the project but the last one that was handed out are closed and done. -/
structure Succeeded (project : Text) (r : Registry) : Prop where
  intact : r.Intact
  earlier : ∀ (n k : Nat) (a a' : Actor), n < k → r.actors[n]? = some a → r.actors[k]? = some a' →
    a.project = project → a'.project = project → a.closed = true ∧ a.isIdle = true

theorem succeeded_opened (setup : ProjectSetup) (cache : Option (Cache Cached)) (clock : Clock)
    (project : Text) : (opened setup cache clock).Succeeded project where
  intact := intact_opened setup cache clock
  earlier _ _ _ _ _ h := nomatch h

theorem Succeeded.move (h : r.Succeeded project) (hx : Orderly project r x) :
    (r.move x).Succeeded project := by
  refine ⟨h.intact.move x, fun n k y y' hnk hy hy' hp hp' => ?_⟩
  -- the earlier of two actors was there before
  have hn : n < r.actors.length := by
    rcases h.intact.move_cases hy' with ⟨a', ha', -⟩ | ⟨p, -, -, rfl, -⟩
    · exact hnk.trans (List.getElem?_eq_some_iff.mp ha').1
    · exact hnk
  rcases h.intact.move_cases hy with ⟨a, ha, hon⟩ | ⟨p, -, -, rfl, -⟩
  · rw [hon.project] at hp
    have hdone : a.closed = true ∧ a.isIdle = true := by
      rcases h.intact.move_cases hy' with ⟨a', ha', hon'⟩ | ⟨p, rfl, ho, rfl, rfl⟩
      · rw [hon'.project] at hp'
        exact h.earlier n k a a' hnk ha ha' hp hp'
      · have hmem := List.mem_of_getElem? ha
        have hclosed := h.intact.addressed.closed_of_open? ho hmem (hp.trans hp'.symm)
        exact ⟨hclosed, hx hp' a hmem hp hclosed⟩
    exact ⟨hon.closed hdone.1, hon.idle hdone.1 hdone.2⟩
  · omega

/-- The actor of the project that was handed out last, or a new one if there was none. -/
def newest (r : Registry) (project : Text) : Actor :=
  (r.actors.reverse.find? fun a => a.project = project).getD { project := project }

/-- Actor `n` is the last one of the project. -/
structure IsLast (r : Registry) (project : Text) (n : Nat) (a : Actor) : Prop where
  actor : r.actors[n]? = some a
  ours : a.project = project
  later : ∀ (k : Nat) (a' : Actor), n < k → r.actors[k]? = some a' → a'.project ≠ project

theorem IsLast.newest_eq (h : r.IsLast project n a) : r.newest project = a := by
  obtain ⟨hn, rfl⟩ := List.getElem?_eq_some_iff.mp h.actor
  have hsplit : r.actors.reverse =
      (r.actors.drop (n + 1)).reverse ++ r.actors[n] :: (r.actors.take n).reverse := by
    have hparts := congrArg List.reverse (List.take_append_drop n r.actors)
    rw [List.drop_eq_getElem_cons hn, List.reverse_append, List.reverse_cons, List.append_assoc]
      at hparts
    exact hparts.symm
  have hlater : ∀ x ∈ (r.actors.drop (n + 1)).reverse, (!decide (x.project = project)) = true := by
    intro x hx
    obtain ⟨k, hk⟩ := List.mem_iff_getElem?.mp (List.mem_reverse.mp hx)
    rw [List.getElem?_drop] at hk
    simpa using h.later _ x (by omega) hk
  have hfind : (r.actors.reverse.find? fun a => a.project = project) = some r.actors[n] :=
    List.find?_eq_some_iff_append.mpr ⟨decide_eq_true h.ours, _, _, hsplit, hlater⟩
  rw [newest, hfind]
  rfl

theorem newest_cases (r : Registry) (project : Text) :
    (∃ n, r.IsLast project n (r.newest project)) ∨
      (∀ a ∈ r.actors, a.project ≠ project) ∧ r.newest project = { project := project } := by
  rw [newest]
  cases hfind : r.actors.reverse.find? fun a => a.project = project with
  | none =>
    refine .inr ⟨fun a ha => ?_, rfl⟩
    simpa using List.find?_eq_none.mp hfind a (List.mem_reverse.mpr ha)
  | some a =>
    obtain ⟨hp, as, bs, hsplit, hlater⟩ := List.find?_eq_some_iff_append.mp hfind
    have hactors : r.actors = bs.reverse ++ a :: as.reverse := by
      rw [← List.reverse_reverse r.actors, hsplit]
      simp
    refine .inl ⟨bs.length, ?_, by simpa using hp, fun k x hk hx => ?_⟩
    · rw [hactors, List.getElem?_append_right (by simp)]
      simp
    · rw [hactors, List.getElem?_append_right (by simpa using hk.le), List.length_reverse,
        show k - bs.length = k - bs.length - 1 + 1 by omega, List.getElem?_cons_succ] at hx
      simpa using hlater x (List.mem_reverse.mp (List.mem_of_getElem? hx))

theorem newest_eq_of_none (h : ∀ a ∈ r.actors, a.project ≠ project) :
    r.newest project = { project := project } := by
  rcases r.newest_cases project with ⟨n, hlast⟩ | ⟨-, hnew⟩
  · exact absurd hlast.ours (h _ (List.mem_of_getElem? hlast.actor))
  · exact hnew

theorem newest_of_append {r' : Registry} (h : r'.actors = r.actors ++ [a]) (project : Text) :
    r'.newest project = if a.project = project then a else r.newest project := by
  rw [newest, h, List.reverse_append, List.reverse_singleton, List.singleton_append,
    List.find?_cons]
  split
  · next hp => rw [if_pos (of_decide_eq_true hp)]; rfl
  · next hp => rw [if_neg (of_decide_eq_false hp)]; rfl

theorem IsLast.setActor (h : r.IsLast project n a) (hp : a'.project = a.project) :
    (r.setActor n a').IsLast project n a' where
  actor := (getElem?_setActor h.actor n).trans (if_pos rfl)
  ours := hp.trans h.ours
  later k x hk hx := by
    rw [getElem?_setActor h.actor, if_neg hk.ne] at hx
    exact h.later k x hk hx

/-- Where an actor is changed, the last one is what it was, or it is this actor. -/
theorem newest_setActor_cases (ha : r.actors[n]? = some a) (a' : Actor)
    (hp : a'.project = a.project) (project : Text) :
    (r.setActor n a').newest project = r.newest project ∨
      r.newest project = a ∧ a.project = project ∧ (r.setActor n a').newest project = a' := by
  rcases r.newest_cases project with ⟨m, hlast⟩ | ⟨hnone, hnew⟩
  · by_cases hm : m = n
    · subst hm
      have ha' := Option.some.inj (hlast.actor.symm.trans ha)
      rw [ha'] at hlast ⊢
      exact .inr ⟨rfl, hlast.ours, (hlast.setActor hp).newest_eq⟩
    · refine .inl (IsLast.newest_eq (n := m) ⟨?_, hlast.ours, fun k x hk hx => ?_⟩)
      · rw [getElem?_setActor ha, if_neg (Ne.symm hm)]
        exact hlast.actor
      · rw [getElem?_setActor ha] at hx
        split at hx
        · next hnk =>
          cases hx
          exact hp ▸ hlast.later n a (hnk ▸ hk) ha
        · exact hlast.later k x hk hx
  · refine .inl ((newest_eq_of_none fun x hx => ?_).trans hnew.symm)
    rcases List.mem_or_eq_of_mem_set hx with hx | rfl
    · exact hnone x hx
    · exact hp ▸ hnone a (List.mem_of_getElem? ha)

theorem newest_cancel_cases (r : Registry) (ticket : Ticket) (project : Text) :
    (r.cancel ticket).newest project = r.newest project ∨
      (r.cancel ticket).newest project = (r.newest project).cancel ticket := by
  have hget (k : Nat) : (r.cancel ticket).actors[k]? =
      r.actors[k]?.map fun a => a.cancel ticket := List.getElem?_map
  rcases r.newest_cases project with ⟨n, hlast⟩ | ⟨hnone, hnew⟩
  · refine .inr (IsLast.newest_eq ⟨by rw [hget, hlast.actor]; rfl, hlast.ours, ?_⟩)
    intro k x hk hx
    rw [hget, Option.map_eq_some_iff] at hx
    obtain ⟨y, hy, rfl⟩ := hx
    exact hlast.later k y hk hy
  · refine .inl ((newest_eq_of_none fun x hx => ?_).trans hnew.symm)
    obtain ⟨y, hy, rfl⟩ := List.mem_map.mp hx
    exact hnone y hy

end Registry

end SitePreview
