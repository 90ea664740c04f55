import SitePreview.Project.Registry
import SitePreview.Proofs.Project.Effects

/-! Sessions of a registry: operations one after another on any projects, actors that are started,
released and closed in between, store calls that begin or cease to fail, and time that passes. The
registry stays sound throughout. -/

namespace SitePreview

/-- Every step of a run is as described, in the state in which it is taken. -/
def Throughout {σ α : Type} (step : σ → α → σ) (P : σ → α → Prop) : σ → List α → Prop
  | _, [] => True
  | s, x :: xs => P s x ∧ Throughout step P (step s x) xs

instance {σ α : Type} (step : σ → α → σ) (P : σ → α → Prop) [∀ s x, Decidable (P s x)] :
    (s : σ) → (xs : List α) → Decidable (Throughout step P s xs)
  | _, [] => inferInstanceAs (Decidable True)
  | s, x :: xs =>
    have := instDecidableThroughout step P (step s x) xs
    inferInstanceAs (Decidable (P s x ∧ Throughout step P (step s x) xs))

theorem Throughout.and {σ α : Type} {step : σ → α → σ} {P Q : σ → α → Prop} {s : σ} {xs : List α}
    (h : Throughout step P s xs) (h' : Throughout step Q s xs) :
    Throughout step (fun s x => P s x ∧ Q s x) s xs := by
  induction xs generalizing s with
  | nil => trivial
  | cons x xs ih => exact ⟨⟨h.1, h'.1⟩, ih h.2 h'.2⟩

/-- What each step keeps, a run of such steps keeps. -/
theorem Throughout.foldl {σ α : Type} {step : σ → α → σ} {P : σ → α → Prop} {I : σ → Prop}
    (hstep : ∀ s x, I s → P s x → I (step s x)) {s : σ} {xs : List α}
    (h : Throughout step P s xs) (hs : I s) : I (xs.foldl step s) := by
  induction xs generalizing s with
  | nil => exact hs
  | cons x xs ih => exact ih h.2 (hstep s x hs h.1)

namespace Registry

/-- What happens to a registry. -/
inductive Step
  | perform (project : Text) (op : Operation)
  | start (project : Text)
  | release (project : Text)
  | closeActor (n : Nat)
  | closeAll
  | setFaults (f : Faults)
  | setClock (t : Clock)

/-- The registry after a step. -/
def step (r : Registry) : Step → Registry
  | .perform project op => (r.perform project op).2
  | .start project =>
    match r.get project with
    | .ok (_, r) => r
    | .error _ => r
  | .release project => r.release project
  | .closeActor n => r.closeActor n
  | .closeAll => r.close
  | .setFaults f => { r with backend := { r.backend with faults := f } }
  | .setClock t => { r with backend := { r.backend with clock := t } }

/-- The registry after a session. -/
def run (r : Registry) (steps : List Step) : Registry := steps.foldl step r

/-- A registry over an empty database, with a cache or none. -/
def opened (setup : ProjectSetup) (cache : Option (Cache Cached)) (clock : Clock) : Registry :=
  { setup := setup, backend := { cache := cache, clock := clock } }

/-- All texts of an operation can be written, and the store fails in ways that callers bear. -/
def Step.Plain : Step → Prop
  | perform project op => project.isUtf8 = true ∧ op.Plain
  | setFaults f => f.Bearable
  | _ => True

/-- What is shared is sound, the rows of the version table stand in the order in which they were
appended, and so is what each actor remembers. -/
structure Sound (r : Registry) : Prop where
  backend : r.backend.Sound
  ascending : r.backend.database.versions.Ascending
  actors : ∀ a ∈ r.actors, a.memory.Sound

theorem sound_opened (setup : ProjectSetup) {cache : Option (Cache Cached)} (clock : Clock)
    (h : ∀ c ∈ cache, 1 ≤ c.policy.capacity) : (opened setup cache clock).Sound where
  backend := ⟨fun _ h => (nomatch h), h, fun _ h => nomatch h⟩
  ascending := List.Pairwise.nil
  actors _ h := nomatch h

variable {r : Registry} {project : Text} {op : Operation}

/-- The actor of a project is number `n` of `found`, which has it started if need be. -/
structure Finds (r : Registry) (project : Text) (n : Nat) (a : Actor) (found : Registry) :
    Prop where
  get : r.get project = .ok (n, found)
  actor : found.actors[n]? = some a
  setup : found.setup = r.setup
  backend : found.backend = r.backend
  actors : ∀ x ∈ found.actors, x ∈ r.actors ∨ x = { project := project }

theorem exists_finds (r : Registry) (hp : project ≠ []) :
    ∃ n a found, r.Finds project n a found := by
  cases ho : r.open? project with
  | some n =>
    have hopen := (Option.filter_eq_some_iff.mp ho).2
    split at hopen
    · next a ha => exact ⟨n, a, r, by simp [get, hp, ho], ha, rfl, rfl, fun x hx => .inl hx⟩
    · cases hopen
  | none =>
    have hget : r.get project = .ok (r.actors.length, { r with
        actors := r.actors ++ [{ project := project }]
        known := setNumber project r.actors.length r.known }) := by
      rw [get, if_neg hp, ho]
    refine ⟨_, { project := project }, _, hget, List.getElem?_concat_length, rfl, rfl, ?_⟩
    intro x hx
    exact (List.mem_append.mp hx).imp_right List.mem_singleton.mp

/-- An operation on a project is run by its actor. -/
theorem Finds.perform_eq {n : Nat} {a : Actor} {found : Registry} (h : r.Finds project n a found)
    (hcheck : op.check = .ok ()) {o : Except ProjectError Answer} {m : Memory} {b : Backend}
    (hrun : (op.routine r.setup project).run a.memory r.backend = (o, m, b)) :
    r.perform project op = (o, { found.setActor n { a with memory := m } with backend := b }) := by
  simp only [perform, h.get, hcheck, h.actor]
  rw [h.setup, h.backend, hrun]

theorem Finds.memory_sound {n : Nat} {a : Actor} {found : Registry}
    (h : r.Finds project n a found) (hr : r.Sound) : ∀ x ∈ found.actors, x.memory.Sound := by
  intro x hx
  rcases h.actors x hx with hx | rfl
  · exact hr.actors x hx
  · exact Memory.sound_empty

theorem perform_nil (r : Registry) (op : Operation) : r.perform [] op = (.error .emptyId, r) := rfl

/-- A refused operation never reaches an actor's mailbox. -/
theorem perform_of_bad_check {e : ProjectError} {n : Nat} {a : Actor} {found : Registry}
    (h : r.Finds project n a found) (hcheck : op.check = .error e) :
    r.perform project op = (.error e, found) := by
  simp only [perform, h.get, hcheck]

theorem check_eq_ok_or_error (op : Operation) :
    op.check = .ok () ∨ ∃ e, op.check = .error e := by
  cases op.check with
  | ok => exact .inl rfl
  | error e => exact .inr ⟨e, rfl⟩

/-- An operation either fails and leaves the store as it was, or is run by the actor of its project
and ends in one of the ways there are. The registry stays sound. -/
theorem perform_spec (hr : r.Sound) (hpu : project.isUtf8 = true) (hop : op.Plain) :
    (r.perform project op).2.Sound ∧ (r.perform project op).2.setup = r.setup ∧
      ((∃ e, (r.perform project op).1 = .error e ∧
          (r.perform project op).2.backend.database.versions = r.backend.database.versions) ∨
        ∃ n a found, r.Finds project n a found ∧ op.check = .ok () ∧
          Operation.Effect r.setup project a.memory r.backend op (r.perform project op).1
            (r.perform project op).2.backend.database.versions) := by
  by_cases hp : project = []
  · subst hp
    rw [perform_nil]
    exact ⟨hr, rfl, .inl ⟨_, rfl, rfl⟩⟩
  obtain ⟨n, a, found, hfinds⟩ := r.exists_finds hp
  have hsound := hfinds.memory_sound hr
  rcases check_eq_ok_or_error op with hcheck | ⟨e, hcheck⟩
  · have ha := hsound a (List.mem_of_getElem? hfinds.actor)
    obtain ⟨o, m, b, hrun, hm, hb, heffect⟩ := Operation.ends hr.backend ha hpu hop hcheck
    rw [hfinds.perform_eq hcheck hrun]
    refine ⟨⟨hb, ?_, ?_⟩, hfinds.setup, .inr ⟨n, a, found, hfinds, hcheck, heffect⟩⟩
    · exact heffect.ascending hr.ascending
    · intro x hx
      rcases List.mem_or_eq_of_mem_set hx with hx | rfl
      · exact hsound x hx
      · exact hm
  · rw [perform_of_bad_check hfinds hcheck]
    refine ⟨⟨hfinds.backend ▸ hr.backend, hfinds.backend ▸ hr.ascending, hsound⟩, hfinds.setup,
      .inl ⟨e, rfl, by rw [hfinds.backend]⟩⟩

theorem Sound.closeActor (h : r.Sound) (n : Nat) : (r.closeActor n).Sound := by
  refine ⟨h.backend, h.ascending, fun x hx => ?_⟩
  obtain ⟨k, hk⟩ := List.mem_iff_getElem?.mp hx
  rw [Registry.closeActor, List.getElem?_modify, Option.map_eq_map,
    Option.map_eq_some_iff] at hk
  obtain ⟨a, ha, rfl⟩ := hk
  have ha := h.actors a (List.mem_of_getElem? ha)
  split
  · exact ha
  · exact ha

theorem backend_closeActors (r : Registry) (es : List (Text × Nat)) :
    (es.foldl (fun r e => r.closeActor e.2) r).backend = r.backend := by
  induction es generalizing r with
  | nil => rfl
  | cons e es ih => exact ih _

theorem Sound.closeActors (h : r.Sound) (es : List (Text × Nat)) :
    (es.foldl (fun r e => r.closeActor e.2) r).Sound := by
  induction es generalizing r with
  | nil => exact h
  | cons e es ih => exact ih (h.closeActor e.2)

theorem Sound.step (h : r.Sound) {x : Step} (hx : x.Plain) : (r.step x).Sound := by
  cases x with
  | perform project op => exact (perform_spec h hx.1 hx.2).1
  | start project =>
    by_cases hp : project = []
    · rw [Registry.step, get, if_pos hp]
      exact h
    · obtain ⟨n, a, found, hfinds⟩ := r.exists_finds hp
      rw [Registry.step, hfinds.get]
      exact ⟨hfinds.backend ▸ h.backend, hfinds.backend ▸ h.ascending, hfinds.memory_sound h⟩
  | release project =>
    rw [Registry.step, Registry.release]
    split
    · exact h
    · next n _ =>
      have hclosed := h.closeActor n
      exact ⟨hclosed.backend, hclosed.ascending, hclosed.actors⟩
  | closeActor n => exact h.closeActor n
  | closeAll =>
    have hclosed := h.closeActors r.known
    exact ⟨hclosed.backend, hclosed.ascending, hclosed.actors⟩
  | setFaults f => exact ⟨⟨hx, h.backend.roomy, h.backend.rows⟩, h.ascending, h.actors⟩
  | setClock t =>
    exact ⟨⟨h.backend.bearable, h.backend.roomy, h.backend.rows⟩, h.ascending, h.actors⟩

theorem Sound.run (h : r.Sound) {steps : List Step} (hsteps : ∀ x ∈ steps, x.Plain) :
    (r.run steps).Sound := by
  induction steps generalizing r with
  | nil => exact h
  | cons x steps ih =>
    rw [List.forall_mem_cons] at hsteps
    exact ih (h.step hsteps.1) hsteps.2

end Registry

end SitePreview
