import SitePreview.Proofs.Project.Session

/-! Addressing: a project has at most one open actor, and it is the one that the registry knows for
it. Operations, releases and closings keep it so. -/

namespace SitePreview.Registry

variable {r : Registry} {project : Text} {n : Nat} {a a' : Actor}

theorem lookup_setNumber (p q : Text) (n : Nat) (es : List (Text × Nat)) :
    (setNumber p n es).lookup q = if q = p then some n else es.lookup q := by
  induction es with
  | nil => exact Keyed.lookup_cons p n q []
  | cons e es ih =>
    obtain ⟨k, l⟩ := e
    rw [setNumber]
    split
    · next h =>
      subst h
      rw [Keyed.lookup_cons, Keyed.lookup_cons]
      split <;> rfl
    · next h =>
      rw [Keyed.lookup_cons, Keyed.lookup_cons, ih]
      split
      · next hq => rw [if_neg fun hp => h (hq.symm.trans hp)]
      · rfl

/-- The registry knows actors by their projects, and knows every actor that is open. -/
structure Addressed (r : Registry) : Prop where
  named : ∀ p n, r.known.lookup p = some n → ∃ a, r.actors[n]? = some a ∧ a.project = p
  live : ∀ n a, r.actors[n]? = some a → a.closed = false → r.known.lookup a.project = some n

theorem addressed_opened (setup : ProjectSetup) (cache : Option (Cache Cached)) (clock : Clock) :
    (opened setup cache clock).Addressed where
  named _ _ h := nomatch h
  live _ _ h := nomatch h

theorem Addressed.withBackend (h : r.Addressed) (b : Backend) :
    Addressed { r with backend := b } := ⟨h.named, h.live⟩

theorem Addressed.unique (h : r.Addressed) {k : Nat} (ha : r.actors[n]? = some a)
    (ha' : r.actors[k]? = some a') (hopen : a.closed = false) (hopen' : a'.closed = false)
    (hp : a.project = a'.project) : n = k := by
  have hn := h.live n a ha hopen
  rw [hp, h.live k a' ha' hopen'] at hn
  exact (Option.some.inj hn).symm

theorem Addressed.open?_eq (h : r.Addressed) (ha : r.actors[n]? = some a)
    (hopen : a.closed = false) : r.open? a.project = some n := by
  rw [open?, h.live n a ha hopen, Option.filter_some]
  simp [ha, hopen]

theorem Addressed.finds_open (h : r.Addressed) (hp : project ≠ []) (ha : r.actors[n]? = some a)
    (hopen : a.closed = false) (hproject : a.project = project) : r.Finds project n a r where
  get := by rw [get, if_neg hp, ← hproject, h.open?_eq ha hopen]
  actor := ha
  setup := rfl
  backend := rfl
  actors _ hx := .inl hx

theorem getElem?_setActor (ha : r.actors[n]? = some a) (k : Nat) :
    (r.setActor n a').actors[k]? = if n = k then some a' else r.actors[k]? := by
  rw [setActor, List.getElem?_set]
  split
  · next hk => rw [if_pos (hk ▸ (List.getElem?_eq_some_iff.mp ha).1)]
  · rfl

/-- An actor that stays what it is to its callers can be changed. -/
theorem Addressed.setActor (h : r.Addressed) (ha : r.actors[n]? = some a)
    (hp : a'.project = a.project) (hclosed : a'.closed = a.closed) :
    (r.setActor n a').Addressed := by
  constructor
  · intro p k hk
    obtain ⟨x, hx, hxp⟩ := h.named p k hk
    rw [getElem?_setActor ha]
    split
    · next hnk =>
      rw [← hnk, ha] at hx
      cases hx
      exact ⟨a', rfl, hp.trans hxp⟩
    · exact ⟨x, hx, hxp⟩
  · intro k x hx hopen
    rw [getElem?_setActor ha] at hx
    split at hx
    · next hnk =>
      cases hx
      rw [hp, ← hnk]
      exact h.live n a ha (hclosed ▸ hopen)
    · exact h.live k x hx hopen

theorem Addressed.start (h : r.Addressed) (ho : r.open? project = none) :
    Addressed { r with
      actors := r.actors ++ [{ project := project }]
      known := setNumber project r.actors.length r.known } := by
  constructor
  · intro p n hn
    rw [lookup_setNumber] at hn
    split at hn
    · next hq =>
      cases hn
      exact ⟨{ project := project }, List.getElem?_concat_length, hq.symm⟩
    · obtain ⟨x, hx, hxp⟩ := h.named p n hn
      have hlt := (List.getElem?_eq_some_iff.mp hx).1
      exact ⟨x, (List.getElem?_append_left hlt).trans hx, hxp⟩
  · intro n x hx hopen
    rw [lookup_setNumber]
    rcases Nat.lt_or_ge n r.actors.length with hlt | hge
    · rw [List.getElem?_append_left hlt] at hx
      have hne : x.project ≠ project := by
        rintro rfl
        rw [h.open?_eq hx hopen] at ho
        cases ho
      rw [if_neg hne, h.live n x hx hopen]
    · rw [List.getElem?_append_right hge] at hx
      have hn : n = r.actors.length := by
        have := (List.getElem?_eq_some_iff.mp hx).1
        simp at this
        omega
      subst hn
      simp only [Nat.sub_self, List.getElem?_cons_zero, Option.some.injEq] at hx
      rw [if_pos (by rw [← hx])]

/-- The actor that is found for a project is an open one of this project. -/
theorem Addressed.finds {found : Registry} (h : r.Addressed) (hf : r.Finds project n a found) :
    a.project = project ∧ a.closed = false ∧ found.Addressed := by
  have hget := hf.get
  have hactor := hf.actor
  rw [get] at hget
  split at hget
  · cases hget
  split at hget
  · next k ho =>
    cases hget
    obtain ⟨hlookup, hopen⟩ := Option.filter_eq_some_iff.mp ho
    obtain ⟨x, hx, hxp⟩ := h.named project n hlookup
    rw [hactor] at hx
    cases hx
    rw [hactor] at hopen
    exact ⟨hxp, by simpa using hopen, h⟩
  · next ho =>
    cases hget
    rw [List.getElem?_concat_length] at hactor
    cases hactor
    exact ⟨rfl, rfl, h.start ho⟩

theorem getElem?_closeActor (k : Nat) :
    (r.closeActor n).actors[k]? = r.actors[k]?.map fun a => if n = k then a.close else a := by
  rw [Registry.closeActor, List.getElem?_modify]
  rfl

theorem mem_of_mem_closeActor (ha : a ∈ (r.closeActor n).actors) (hopen : a.closed = false) :
    a ∈ r.actors := by
  obtain ⟨k, hk⟩ := List.mem_iff_getElem?.mp ha
  rw [getElem?_closeActor, Option.map_eq_some_iff] at hk
  obtain ⟨x, hx, rfl⟩ := hk
  split at hopen
  · cases hopen
  · next hne => exact (if_neg hne).symm ▸ List.mem_of_getElem? hx

theorem Addressed.closeActor (h : r.Addressed) (n : Nat) : (r.closeActor n).Addressed := by
  constructor
  · intro p k hk
    obtain ⟨a, ha, hp⟩ := h.named p k hk
    refine ⟨_, by rw [getElem?_closeActor, ha]; rfl, ?_⟩
    split
    · exact hp
    · exact hp
  · intro k a ha hopen
    rw [getElem?_closeActor, Option.map_eq_some_iff] at ha
    obtain ⟨x, hx, rfl⟩ := ha
    split at hopen
    · cases hopen
    · next hk =>
      rw [if_neg hk]
      exact h.live k x hx hopen

/-- No actor is open that was closed once. -/
theorem getElem?_closeActors (es : List (Text × Nat)) (k : Nat) :
    (es.foldl (fun r e => r.closeActor e.2) r).actors[k]? =
      r.actors[k]?.map fun a => if k ∈ es.map Prod.snd then a.close else a := by
  induction es generalizing r with
  | nil => simp
  | cons e es ih =>
    rw [List.foldl_cons, ih, getElem?_closeActor, Option.map_map, List.map_cons]
    refine congrFun (congrArg Option.map (funext fun a => ?_)) _
    by_cases hk : k = e.2
    · subst hk
      simp [Actor.close]
    · rw [Function.comp_apply, if_neg (Ne.symm hk)]
      exact if_congr (by simp [hk]) rfl rfl

theorem Addressed.release (h : r.Addressed) (project : Text) : (r.release project).Addressed := by
  rw [Registry.release]
  split
  · exact h
  next n hn =>
  have hclosed := h.closeActor n
  constructor
  · intro p k hk
    rw [Keyed.lookup_filter_ne] at hk
    split at hk
    · cases hk
    · exact hclosed.named p k hk
  · intro k a ha hopen
    have hk := hclosed.live k a ha hopen
    -- the actor of the project is the one that was closed
    have hne : a.project ≠ project := by
      intro hp
      have hkn : n = k := by
        rw [hp] at hk
        exact Option.some.inj (hn.symm.trans hk)
      rw [getElem?_closeActor, Option.map_eq_some_iff] at ha
      obtain ⟨x, -, rfl⟩ := ha
      rw [if_pos hkn] at hopen
      cases hopen
    rw [Keyed.lookup_filter_ne, if_neg hne]
    exact hk

theorem Addressed.close (h : r.Addressed) : r.close.Addressed := by
  constructor
  · intro p k hk
    cases hk
  · intro k a ha hopen
    rw [Registry.close, getElem?_closeActors, Option.map_eq_some_iff] at ha
    obtain ⟨x, hx, rfl⟩ := ha
    split at hopen
    · cases hopen
    · next hk =>
      have hmem := h.live k x hx hopen
      exact absurd (List.mem_map.mpr ⟨_, Keyed.mem_of_lookup_eq_some hmem, rfl⟩) hk

end SitePreview.Registry
