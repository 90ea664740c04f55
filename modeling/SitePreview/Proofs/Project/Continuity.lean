import SitePreview.Proofs.Project.Handover
import SitePreview.Proofs.Project.Landing

/-! Continuity. A new actor of a project goes by the record that the last one has left, as long as
this one is done when the new one is handed out: no record that was accepted is replaced by an actor
that was not told of it. -/

namespace SitePreview.Registry

variable {r : Registry} {project : Text} {n k : Nat} {a a' : Actor} {x : Move}

/-- The record that the last actor of the project goes by, or that it would be told of, dates
apart. -/
def standing (r : Registry) (project : Text) : Option ProjectRecord :=
  ((r.newest project).memory.asked r.setup project r.backend).record.map ProjectRecord.undated

/-- The store does not fail, and all texts that are sent to actors of the project can be written. -/
def Move.Steady (project : Text) (r : Registry) : Move → Prop
  | send n op => ∀ a ∈ r.actors[n]?, a.project = project → op.Plain
  | setFaults f => f = Faults.none
  | _ => True

/-- All actors of the project but the last one are done, and this one serves the project. -/
structure Continued (r : Registry) (project : Text) : Prop extends r.Succeeded project where
  keeps : r.setup.keepsProjects = true
  works : r.backend.Works
  serves : (r.newest project).Serves project (r.backend.row? project)

theorem continued_opened {setup : ProjectSetup} (cache : Option (Cache Cached)) (clock : Clock)
    (project : Text) (hkeeps : setup.keepsProjects = true) :
    (opened setup cache clock).Continued project where
  toSucceeded := succeeded_opened setup cache clock project
  keeps := hkeeps
  works := ⟨rfl, rfl⟩
  serves := Actor.serves_of_idle (Memory.matches_empty fun _ h => nomatch h) rfl rfl

theorem Continued.standing_of_idle (h : r.Continued project)
    (hidle : (r.newest project).current = none) :
    r.standing project = (r.backend.row? project).map ProjectRecord.undated := by
  have hm := h.serves.idle hidle
  rw [standing, Memory.asked]
  split
  · next hl => exact hm.same hl
  · rw [h.keeps, h.works.reaches]
    rfl

/-- The record stands where the last actor remembers the same, and the row is the same. -/
theorem Continued.of_newest {r' : Registry} (h : r.Continued project)
    (hr : r'.Succeeded project) (hsetup : r'.setup = r.setup) (hworks : r'.backend.Works)
    (hrow : r'.backend.row? project = r.backend.row? project)
    (hmemory : (r'.newest project).memory = (r.newest project).memory)
    (hserves : (r'.newest project).Serves project (r.backend.row? project)) :
    r'.Continued project ∧ r'.standing project = r.standing project := by
  refine ⟨⟨hr, hsetup ▸ h.keeps, hworks, hrow ▸ hserves⟩, ?_⟩
  have hreaches : r'.backend.reaches .loadProject = r.backend.reaches .loadProject := by
    rw [hworks.reaches, h.works.reaches]
  rw [standing, standing, hmemory, hsetup, Memory.asked_congr hreaches hrow]

theorem Continued.of_same (h : r.Continued project) {r' : Registry} (hr : r'.Succeeded project)
    (hsetup : r'.setup = r.setup) (hworks : r'.backend.Works)
    (hrow : r'.backend.row? project = r.backend.row? project)
    (hnewest : r'.newest project = r.newest project) :
    r'.Continued project ∧ r'.standing project = r.standing project :=
  h.of_newest hr hsetup hworks hrow (by rw [hnewest]) (by rw [hnewest]; exact h.serves)

theorem Continued.closeActor (h : r.Continued project) (hr : (r.closeActor n).Succeeded project) :
    (r.closeActor n).Continued project ∧
      (r.closeActor n).standing project = r.standing project := by
  cases hn : r.actors[n]? with
  | none =>
    have hsame : r.actors.modify n Actor.close = r.actors :=
      List.modify_eq_self (List.getElem?_eq_none_iff.mp hn)
    rw [Registry.closeActor, hsame]
    exact ⟨h, rfl⟩
  | some a =>
    have hset : r.closeActor n = r.setActor n a.close := by
      rw [Registry.closeActor, Registry.setActor, List.modify_eq_set_getElem?, hn]
      rfl
    rw [hset] at hr ⊢
    rcases newest_setActor_cases hn a.close rfl project with hsame | ⟨hold, -, hnew⟩
    · exact h.of_same hr rfl h.works rfl hsame
    · have hserves := h.serves
      rw [hold] at hserves
      refine h.of_newest hr rfl h.works rfl (by rw [hnew, hold]; rfl) ?_
      rw [hnew]
      exact ⟨hserves.queue, hserves.idle, hserves.busy⟩

theorem Continued.send (h : r.Continued project) (hpu : project.isUtf8 = true) {op : Operation}
    (hop : ∀ a ∈ r.actors[n]?, a.project = project → op.Plain)
    (hr : (r.send n op).2.Succeeded project) :
    (r.send n op).2.Continued project ∧
      (r.send n op).2.standing project = r.standing project := by
  rcases r.send_cases n op with ⟨e, hsend, -⟩ | ⟨a, hn, hcheck, -, hsend⟩
  · rw [hsend]
    exact ⟨h, rfl⟩
  · rw [hsend] at hr ⊢
    have hcases := newest_setActor_cases hn { a with
      queue := a.queue ++ [⟨r.nextTicket, op.routine r.setup a.project⟩] } rfl project
    rcases hcases with hsame | ⟨hold, hp, hnew⟩
    · exact h.of_same hr rfl h.works rfl hsame
    · have hserves := h.serves
      rw [hold] at hserves
      refine h.of_newest hr rfl h.works rfl ((congrArg Actor.memory hnew).trans
        (congrArg Actor.memory hold).symm) ?_
      refine hnew.symm ▸ ⟨fun job hjob => ?_, hserves.idle, hserves.busy⟩
      rcases List.mem_append.mp hjob with hjob | hjob
      · exact hserves.queue job hjob
      · intro m row hm
        rw [List.mem_singleton.mp hjob, hp]
        exact Operation.routine_lands h.keeps hpu (hop a hn hp) hcheck hm

theorem Continued.cancel (h : r.Continued project) (ticket : Ticket)
    (hr : (r.cancel ticket).Succeeded project) :
    (r.cancel ticket).Continued project ∧
      (r.cancel ticket).standing project = r.standing project := by
  rcases r.newest_cancel_cases ticket project with hsame | hnew
  · exact h.of_same hr rfl h.works rfl hsame
  · refine h.of_newest hr rfl h.works rfl (by rw [hnew]; rfl) ?_
    rw [hnew]
    exact ⟨h.serves.queue, h.serves.idle, h.serves.busy⟩

/-- A new actor is handed out when the last one is done, and is told what this one remembers. -/
theorem Continued.get (h : r.Continued project) {p : Text} (hx : Orderly project r (.get p))
    (hr : (r.move (.get p)).Succeeded project) :
    (r.move (.get p)).Continued project ∧
      (r.move (.get p)).standing project = r.standing project := by
  rcases r.move_get_cases p with hsame | ⟨ho, hstart⟩
  · rw [hsame]
    exact ⟨h, rfl⟩
  have hnewest := newest_of_append (congrArg Registry.actors hstart) project
  have hsetup : (r.move (.get p)).setup = r.setup := by rw [hstart]
  have hbackend : (r.move (.get p)).backend = r.backend := by rw [hstart]
  by_cases hp : p = project
  · subst hp
    rw [if_pos rfl] at hnewest
    have hidle : (r.newest p).current = none := by
      rcases r.newest_cases p with ⟨n, hlast⟩ | ⟨-, hnew⟩
      · have hmem := List.mem_of_getElem? hlast.actor
        have hclosed := h.intact.addressed.closed_of_open? ho hmem hlast.ours
        have hdone := hx rfl _ hmem hlast.ours hclosed
        rw [Actor.isIdle, Bool.and_eq_true] at hdone
        exact Option.isNone_iff_eq_none.mp hdone.2
      · rw [hnew]
    have hempty : ({} : Memory).Matches p (r.backend.row? p) :=
      Memory.matches_empty (h.serves.idle hidle).stored
    have hcontinued : (r.move (.get p)).Continued p := by
      refine ⟨hr, hsetup ▸ h.keeps, hbackend ▸ h.works, ?_⟩
      rw [hnewest, hbackend]
      exact Actor.serves_of_idle hempty rfl rfl
    refine ⟨hcontinued, ?_⟩
    rw [hcontinued.standing_of_idle (by rw [hnewest]), h.standing_of_idle hidle, hbackend]
  · exact h.of_same hr hsetup (hbackend ▸ h.works) (by rw [hbackend])
      (hnewest.trans (if_neg hp))

/-- A turn leaves the record of the project, unless it is one of the last actor of the project and
this one has messages. -/
theorem Continued.turn (h : r.Continued project) (n : Nat)
    (hr : (r.turn n).1.Succeeded project) :
    (r.turn n).1.Continued project ∧
      ((r.turn n).1.standing project = r.standing project ∨
        r.IsLast project n (r.newest project) ∧ (r.newest project).isIdle = false) := by
  rw [Registry.turn] at hr ⊢
  cases hn : r.actors[n]? with
  | none => exact ⟨h, .inl rfl⟩
  | some a =>
    rw [hn] at hr
    dsimp only at hr ⊢
    have ha := h.intact.actors a (List.mem_of_getElem? hn)
    have hframes := ha.frames_turn r.backend
    have hworks := hframes.works h.works
    have hproject := (ha.turn h.intact.backend).2.1.project
    by_cases hp : a.project = project
    · by_cases hidle : a.isIdle = true
      · rw [Actor.turn_of_isIdle hidle] at hr ⊢
        obtain ⟨hcontinued, hstands⟩ := h.of_same hr rfl h.works rfl
          ((newest_setActor_cases hn a rfl project).elim id fun hsame =>
            hsame.2.2.trans hsame.1.symm)
        exact ⟨hcontinued, .inl hstands⟩
      · -- all actors but the last one are idle
        have hlast : r.IsLast project n a := by
          refine ⟨hn, hp, fun k x hk hx hxp => hidle ?_⟩
          exact (h.earlier n k a x hk hn hx hp hxp).2
        have hserves := h.serves
        rw [hlast.newest_eq] at hserves ⊢
        refine ⟨⟨hr, h.keeps, hworks, ?_⟩, .inr ⟨hlast, by simpa using hidle⟩⟩
        have hnew : ((r.setActor n (a.turn r.backend).1).newest project) =
            (a.turn r.backend).1 := (hlast.setActor hproject).newest_eq
        exact hnew.symm ▸ hserves.turn h.works
    · obtain ⟨hcontinued, hstands⟩ := h.of_same hr rfl hworks
        (hframes.others project (Ne.symm hp))
        ((newest_setActor_cases hn _ hproject project).elim id fun hours => absurd hours.2.1 hp)
      exact ⟨hcontinued, .inl hstands⟩

theorem Continued.move (h : r.Continued project) (hpu : project.isUtf8 = true)
    (hx : Orderly project r x) (hsteady : x.Steady project r) :
    (r.move x).Continued project ∧
      ((r.move x).standing project = r.standing project ∨
        ∃ n, x = .turn n ∧ r.IsLast project n (r.newest project) ∧
          (r.newest project).isIdle = false) := by
  have hr := h.toSucceeded.move hx
  have hstands (h : (r.move x).Continued project ∧
      (r.move x).standing project = r.standing project) :
      (r.move x).Continued project ∧
        ((r.move x).standing project = r.standing project ∨
          ∃ n, x = .turn n ∧ r.IsLast project n (r.newest project) ∧
            (r.newest project).isIdle = false) := ⟨h.1, .inl h.2⟩
  cases x with
  | get p => exact hstands (h.get hx hr)
  | release p =>
    refine hstands ?_
    rw [Registry.move, Registry.release] at hr ⊢
    split at hr
    · exact ⟨h, rfl⟩
    · next n hn =>
      have hclose : (r.closeActor n).Succeeded project :=
        h.toSucceeded.move (x := .close n) trivial
      obtain ⟨hcontinued, hstands⟩ := h.closeActor hclose
      obtain ⟨hcontinued', hstands'⟩ := hcontinued.of_same hr rfl hcontinued.works rfl rfl
      exact ⟨hcontinued', hstands'.trans hstands⟩
  | send n op => exact hstands (h.send hpu hsteady hr)
  | close n => exact hstands (h.closeActor hr)
  | cancel ticket => exact hstands (h.cancel ticket hr)
  | turn n =>
    obtain ⟨hcontinued, hstands | hlast⟩ := h.turn n hr
    · exact ⟨hcontinued, .inl hstands⟩
    · exact ⟨hcontinued, .inr ⟨n, rfl, hlast⟩⟩
  | setFaults f =>
    have hworks : Backend.Works { r.backend with faults := f } := ⟨h.works.tables, hsteady⟩
    exact hstands (h.of_same hr rfl hworks rfl rfl)
  | setClock t =>
    have hworks : Backend.Works { r.backend with clock := t } := ⟨h.works.tables, h.works.faults⟩
    exact hstands (h.of_same hr rfl hworks rfl rfl)

/-- If the actor of a project is asked for only while no closed actor of the project has messages
left, a new actor is handed out only when all earlier ones are closed and done, and no two of them
ever have messages at the same time. While the store does not fail, what was accepted last is then
what the project stands at, whoever is handed out: this record changes at a turn of the last actor
alone, which goes by it. -/
theorem handed_out_in_turn {setup : ProjectSetup} {cache : Option (Cache Cached)} {clock : Clock}
    {project : Text} {moves : List Move}
    (hmoves : Throughout Registry.move (Orderly project) (opened setup cache clock) moves) :
    let r := moves.foldl Registry.move (opened setup cache clock)
    (∀ n found, r.get project = .ok (n, found) → n = r.actors.length →
      Orderly project r (.get project) →
      ∀ a ∈ r.actors, a.project = project → a.closed = true ∧ a.isIdle = true) ∧
    (∀ (n k : Nat) (a a' : Actor), n < k → r.actors[n]? = some a → r.actors[k]? = some a' →
      a.project = project → a'.project = project → a.closed = true ∧ a.isIdle = true) ∧
    (setup.keepsProjects = true → project.isUtf8 = true →
      Throughout Registry.move (fun r x => x.Steady project r) (opened setup cache clock) moves →
      ∀ x, Orderly project r x → x.Steady project r →
        (r.move x).standing project = r.standing project ∨
          ∃ n, x = .turn n ∧ r.IsLast project n (r.newest project) ∧
            (r.newest project).isIdle = false) := by
  intro r
  have hsucceeded : r.Succeeded project :=
    hmoves.foldl (fun _ _ h hx => h.move hx) (succeeded_opened setup cache clock project)
  refine ⟨fun n found hget hn horderly a ha hp => ?_, hsucceeded.earlier, ?_⟩
  · have ho : r.open? project = none := by
      rw [Registry.get] at hget
      split at hget
      · cases hget
      split at hget
      · next k ho =>
        -- an actor that is there has a smaller number
        cases hget
        obtain ⟨hlookup, -⟩ := Option.filter_eq_some_iff.mp ho
        obtain ⟨x, hx, -⟩ := hsucceeded.intact.addressed.named project n hlookup
        exact absurd hn (List.getElem?_eq_some_iff.mp hx).1.ne
      · assumption
    have hclosed := hsucceeded.intact.addressed.closed_of_open? ho ha hp
    exact ⟨hclosed, horderly rfl a ha hp hclosed⟩
  · intro hkeeps hpu hsteady x hx hx'
    have hcontinued : r.Continued project :=
      (hmoves.and hsteady).foldl (I := fun r => r.Continued project)
        (fun _ _ h hx => (h.move hpu hx.1 hx.2).1) (continued_opened cache clock project hkeeps)
    exact (hcontinued.move hpu hx hx').2

def replacement (path content : Text) : Operation :=
  .sync (.ofList [(path, content)]) (.text "u1") .nothing .nothing

/-- An actor has answered its message when it is released and the next one is handed out. -/
def orderlyLife : List Move :=
  [.get "p1", .send 0 (replacement "a.txt" "1"), .turn 0, .turn 0, .turn 0, .release "p1"]

theorem handed_out_in_turn_orderlyLife :
    let r := orderlyLife.foldl Registry.move
      (opened { keepsVersions := false } none { now := { seconds := 0 } })
    (∀ a ∈ r.actors, a.project = "p1" → a.closed = true ∧ a.isIdle = true) ∧
      (r.move (.get "p1")).standing "p1" = r.standing "p1" := by
  intro r
  have horderly : Throughout Registry.move (Orderly "p1")
      (opened { keepsVersions := false } none { now := { seconds := 0 } }) orderlyLife := by
    decide +kernel
  have hget : Orderly "p1" r (.get "p1") := by decide +kernel
  have hnew : r.open? "p1" = none := by decide +kernel
  obtain ⟨hdone, -, hstands⟩ := handed_out_in_turn horderly
  refine ⟨hdone r.actors.length _ (by rw [Registry.get, if_neg (by decide), hnew]) rfl hget, ?_⟩
  have hplain : (replacement "a.txt" "1").Plain :=
    ⟨⟨"u1", by decide, rfl⟩, ⟨none, by decide, rfl⟩, ⟨none, by decide, rfl⟩⟩
  have hsteady : Throughout Registry.move (fun r x => x.Steady "p1" r)
      (opened { keepsVersions := false } none { now := { seconds := 0 } }) orderlyLife :=
    ⟨trivial, fun _ _ _ => hplain, trivial, trivial, trivial, trivial, trivial⟩
  rcases hstands rfl (by decide) hsteady (.get "p1") hget trivial with h | ⟨n, h, -⟩
  · exact h
  · cases h

/-- The actor of a project is released while its message waits. -/
def earlyRelease : List Move :=
  [.get "p1", .send 0 (replacement "a.txt" "1"), .release "p1"]

/-- The next actor is sent a message as well, and both take turns. -/
def overlap : List Move :=
  [.get "p1", .send 1 (replacement "b.txt" "2"), .turn 0, .turn 1, .turn 0, .turn 1, .turn 0]

/-- A new actor is handed out while an earlier one has a message left. Both are at work then, and
the files of the first are replaced by the second, which takes the project for a new one. -/
theorem handed_out_while_busy :
    let r := earlyRelease.foldl Registry.move
      (opened { keepsVersions := false } none { now := { seconds := 0 } })
    let r' := overlap.foldl Registry.move r
    (r.actors.map fun a => (a.project, a.isIdle)) = [(("p1" : Text), false)] ∧
      ((r.move (.get "p1")).actors.map fun a => (a.project, a.isIdle)) =
        [(("p1" : Text), false), (("p1" : Text), true)] ∧
      ((r'.backend.row? "p1").map fun row => row.files) =
        some (FileSet.ofList [("a.txt", "1")]) ∧
      ((r'.turn 1).2.map fun answer => answer.2.map fun
        | .synced d => (d.changedPaths, d.removedPaths)
        | _ => ([], [])) = [.ok ([("b.txt" : Text)], [])] ∧
      (((r'.turn 1).1.backend.row? "p1").map fun row => row.files) =
        some (FileSet.ofList [("b.txt", "2")]) := by
  decide +kernel

end SitePreview.Registry
