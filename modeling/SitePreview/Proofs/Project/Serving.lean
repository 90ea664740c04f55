import SitePreview.Proofs.Project.Endings
import SitePreview.Proofs.Project.Restart

/-! Who serves a project: the open actor that there is for it, or a new one that remembers nothing.
What the registry answers depends on no other actor, and no operation on another project changes
what this one remembers. -/

namespace SitePreview.Registry

variable {r r' found : Registry} {project q : Text} {n : Nat} {a : Actor} {op : Operation}

/-- What the actor of a project remembers, which is nothing as long as there is none that is
open. -/
def memoryOf (r : Registry) (project : Text) : Memory :=
  (((r.open? project).bind fun n => r.actors[n]?).map Actor.memory).getD {}

theorem Addressed.memoryOf_eq (h : r.Addressed) (ha : a ∈ r.actors) (hopen : a.closed = false) :
    r.memoryOf a.project = a.memory := by
  obtain ⟨n, hn⟩ := List.mem_iff_getElem?.mp ha
  rw [memoryOf, h.open?_eq hn hopen, Option.bind_some, hn]
  rfl

theorem Addressed.of_open? (h : r.Addressed) (ho : r.open? project = some n) :
    ∃ a, r.actors[n]? = some a ∧ a.project = project ∧ a.closed = false := by
  obtain ⟨hlookup, hopen⟩ := Option.filter_eq_some_iff.mp ho
  obtain ⟨a, ha, hp⟩ := h.named project n hlookup
  rw [ha] at hopen
  exact ⟨a, ha, hp, by simpa using hopen⟩

theorem Addressed.memoryOf_eq_empty (h : r.Addressed)
    (hnone : ∀ a ∈ r.actors, a.closed = false → a.project ≠ project) :
    r.memoryOf project = {} := by
  cases ho : r.open? project with
  | none => rw [memoryOf, ho]; rfl
  | some n =>
    obtain ⟨a, ha, hp, hopen⟩ := h.of_open? ho
    exact absurd hp (hnone a (List.mem_of_getElem? ha) hopen)

/-- The memory of a project stays what it is while its open actors are the same. -/
theorem Addressed.memoryOf_congr (h : r.Addressed) (h' : r'.Addressed)
    (hsame : ∀ a, a.closed = false → a.project = project → (a ∈ r'.actors ↔ a ∈ r.actors)) :
    r'.memoryOf project = r.memoryOf project := by
  by_cases hex : ∃ a ∈ r.actors, a.closed = false ∧ a.project = project
  · obtain ⟨a, ha, hopen, rfl⟩ := hex
    rw [h.memoryOf_eq ha hopen, h'.memoryOf_eq ((hsame a hopen rfl).mpr ha) hopen]
  · have hnone : ∀ a ∈ r.actors, a.closed = false → a.project ≠ project :=
      fun a ha hopen hp => hex ⟨a, ha, hopen, hp⟩
    rw [h.memoryOf_eq_empty hnone, h'.memoryOf_eq_empty fun a ha hopen hp =>
      hnone a ((hsame a hopen hp).mp ha) hopen hp]

theorem Finds.found_cases (hf : r.Finds project n a found) :
    (r.open? project = some n ∧ found = r) ∨
      (r.open? project = none ∧ a = { project := project } ∧
        found.actors = r.actors ++ [{ project := project }]) := by
  have hget := hf.get
  rw [Registry.get] at hget
  split at hget
  · cases hget
  split at hget
  · next ho =>
    cases hget
    exact .inl ⟨ho, rfl⟩
  · next ho =>
    cases hget
    have hactor := hf.actor
    rw [List.getElem?_concat_length] at hactor
    exact .inr ⟨ho, (Option.some.inj hactor).symm, rfl⟩

theorem Finds.memory_eq (hf : r.Finds project n a found) : a.memory = r.memoryOf project := by
  rcases hf.found_cases with ⟨ho, rfl⟩ | ⟨ho, rfl, -⟩
  · rw [memoryOf, ho, Option.bind_some, hf.actor]
    rfl
  · rw [memoryOf, ho]
    rfl

theorem Finds.memoryOf_eq (hf : r.Finds project n a found) (h : r.Addressed) (q : Text) :
    found.memoryOf q = r.memoryOf q := by
  obtain ⟨hp, hopen, hfound⟩ := h.finds hf
  by_cases hq : q = project
  · subst hq
    rw [← hf.memory_eq]
    have ha := hfound.memoryOf_eq (List.mem_of_getElem? hf.actor) hopen
    rw [hp] at ha
    exact ha
  · refine h.memoryOf_congr hfound fun x _ hx => ?_
    rcases hf.found_cases with ⟨-, rfl⟩ | ⟨-, -, hactors⟩
    · exact .rfl
    · rw [hactors, List.mem_append, List.mem_singleton]
      refine ⟨fun hmem => hmem.resolve_right ?_, .inl⟩
      rintro rfl
      exact hq hx.symm

theorem ne_of_project_ne {k : Nat} {x : Actor} (ha : r.actors[n]? = some a)
    (hx : r.actors[k]? = some x) (hp : x.project ≠ a.project) : n ≠ k := by
  rintro rfl
  rw [ha] at hx
  cases hx
  exact hp rfl

/-- Of an actor whose memory is changed, this is what its project remembers; all others remember
what they did. -/
theorem Addressed.memoryOf_setMemory (h : r.Addressed) (ha : r.actors[n]? = some a)
    (hopen : a.closed = false) (m : Memory) (b : Backend) (q : Text) :
    ({ r.setActor n { a with memory := m } with backend := b } : Registry).memoryOf q =
      if q = a.project then m else r.memoryOf q := by
  have hset : (r.setActor n { a with memory := m }).Addressed := h.setActor ha rfl rfl
  replace hset := hset.withBackend b
  have hlt := (List.getElem?_eq_some_iff.mp ha).1
  split
  · next hq =>
    subst hq
    exact hset.memoryOf_eq (a := { a with memory := m }) (List.mem_set hlt _) hopen
  · next hq =>
    refine h.memoryOf_congr hset fun x _ hx => ?_
    constructor
    · intro hmem
      rcases List.mem_or_eq_of_mem_set hmem with hmem | rfl
      · exact hmem
      · exact absurd hx.symm hq
    · intro hmem
      obtain ⟨k, hk⟩ := List.mem_iff_getElem?.mp hmem
      have hne : n ≠ k := ne_of_project_ne ha hk fun hp => hq (hx.symm.trans hp)
      refine List.mem_iff_getElem?.mpr ⟨k, ?_⟩
      show (r.actors.set n _)[k]? = some x
      rw [List.getElem?_set_ne hne, hk]

/-- An operation that passes its check is run by what its project remembers. -/
theorem Addressed.perform_eq (h : r.Addressed) (hp : project ≠ []) (hcheck : op.check = .ok ())
    {o : Outcome} {m : Memory} {b : Backend}
    (hrun : (op.routine r.setup project).run (r.memoryOf project) r.backend = (o, m, b)) :
    (r.perform project op).1 = o ∧ (r.perform project op).2.setup = r.setup ∧
      (r.perform project op).2.backend = b ∧
      ∀ q, (r.perform project op).2.memoryOf q = if q = project then m else r.memoryOf q := by
  obtain ⟨n, a, found, hf⟩ := r.exists_finds hp
  obtain ⟨hproject, hopen, hfound⟩ := h.finds hf
  rw [← hf.memory_eq] at hrun
  rw [hf.perform_eq hcheck hrun]
  refine ⟨rfl, hf.setup, rfl, fun q => ?_⟩
  rw [hfound.memoryOf_setMemory hf.actor hopen, hproject, hf.memoryOf_eq h]

/-- An operation that does not pass its check, or is on no project, is answered without its
actor. -/
theorem Addressed.perform_of_rejected (h : r.Addressed)
    (hrejected : project = [] ∨ op.check ≠ .ok ()) :
    (∃ e, (r.perform project op).1 = .error e) ∧ (r.perform project op).2.setup = r.setup ∧
      (r.perform project op).2.backend = r.backend ∧
      ∀ q, (r.perform project op).2.memoryOf q = r.memoryOf q := by
  by_cases hp : project = []
  · subst hp
    exact ⟨⟨_, rfl⟩, rfl, rfl, fun _ => rfl⟩
  obtain ⟨n, a, found, hf⟩ := r.exists_finds hp
  rcases check_eq_ok_or_error op with hcheck | ⟨e, hcheck⟩
  · exact absurd hcheck (hrejected.resolve_left hp)
  · rw [perform_of_bad_check hf hcheck]
    exact ⟨⟨e, rfl⟩, hf.setup, hf.backend, hf.memoryOf_eq h⟩

theorem Intact.memoryOf (h : r.Intact) (project : Text) : (r.memoryOf project).Intact project := by
  by_cases hex : ∃ a ∈ r.actors, a.closed = false ∧ a.project = project
  · obtain ⟨a, ha, hopen, rfl⟩ := hex
    rw [h.addressed.memoryOf_eq ha hopen]
    exact (h.actors a ha).memory
  · rw [h.addressed.memoryOf_eq_empty fun a ha hopen hp => hex ⟨a, ha, hopen, hp⟩]
    exact Memory.intact_of_none rfl

theorem Intact.run (h : r.Intact) (steps : List Step) : (r.run steps).Intact := by
  induction steps generalizing r with
  | nil => exact h
  | cons x steps ih => exact ih (h.step x)

/-- An operation on a project ends in one of the ways there are, from what its actor remembers. -/
theorem Intact.perform_ending (h : r.Intact) (hp : project ≠ []) (hcheck : op.check = .ok ()) :
    ∃ o m b, Operation.Ending r.setup project (r.memoryOf project) r.backend op o m b ∧
      (r.perform project op).1 = o ∧ (r.perform project op).2.setup = r.setup ∧
      (r.perform project op).2.backend = b ∧
      ∀ q, (r.perform project op).2.memoryOf q = if q = project then m else r.memoryOf q :=
  ⟨_, _, _, Operation.ending hcheck (h.memoryOf project) h.backend,
    h.addressed.perform_eq hp hcheck rfl⟩

/-- Behind housekeeping a project remembers what it did, or nothing. -/
theorem Addressed.memoryOf_housekeeping (h : r.Addressed) {x : Step}
    (hx : x.isHousekeeping = true) (h' : (r.step x).Addressed) (q : Text) :
    (r.step x).memoryOf q = r.memoryOf q ∨ (r.step x).memoryOf q = {} := by
  by_cases hex : ∃ a ∈ (r.step x).actors, a.closed = false ∧ a.project = q
  · obtain ⟨a, ha, hopen, rfl⟩ := hex
    rw [h'.memoryOf_eq ha hopen]
    rcases (step_housekeeping hx).2.2 a ha hopen with ha | ⟨p, rfl⟩
    · exact .inl (h.memoryOf_eq ha hopen).symm
    · exact .inr rfl
  · exact .inr (h'.memoryOf_eq_empty fun a ha hopen hp => hex ⟨a, ha, hopen, hp⟩)

theorem Addressed.memoryOf_start (h : r.Addressed) (project q : Text) :
    (r.step (.start project)).memoryOf q = r.memoryOf q := by
  by_cases hp : project = []
  · rw [step, get, if_pos hp]
  · obtain ⟨n, a, found, hf⟩ := r.exists_finds hp
    rw [step, hf.get]
    exact hf.memoryOf_eq h q

theorem Addressed.memoryOf_release_of_ne (h : r.Addressed) (hq : q ≠ project) :
    (r.release project).memoryOf q = r.memoryOf q := by
  refine h.memoryOf_congr (h.release project) fun x hopen hx => ?_
  rw [Registry.release]
  cases hn : r.known.lookup project with
  | none => exact .rfl
  | some n =>
    obtain ⟨a, ha, hp⟩ := h.named project n hn
    -- the actor that is closed is one of the other project
    constructor
    · intro hmem
      exact mem_of_mem_closeActor hmem hopen
    · intro hmem
      obtain ⟨k, hk⟩ := List.mem_iff_getElem?.mp hmem
      have hne : n ≠ k := ne_of_project_ne ha hk fun hxa => hq (hx.symm.trans (hxa.trans hp))
      refine List.mem_iff_getElem?.mpr ⟨k, ?_⟩
      show (r.closeActor n).actors[k]? = some x
      rw [getElem?_closeActor, hk, Option.map_some, if_neg hne]

/-- A new cache has no summary of any project. -/
theorem summaryOf?_opened (setup : ProjectSetup) {cache : Option (Cache Cached)} (clock : Clock)
    (hcache : ∀ c ∈ cache, c.entries = []) (project : Text) :
    (opened setup cache clock).backend.summaryOf? project = none := by
  cases cache with
  | none => rfl
  | some c =>
    show c.valueOf? _ = none
    rw [Cache.valueOf?, hcache c rfl]
    rfl

end SitePreview.Registry
