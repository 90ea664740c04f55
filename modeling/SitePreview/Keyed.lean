/-! Lists of values by key: what a key stands for is said by its first entry. -/

namespace SitePreview.Keyed

variable {κ α : Type} [BEq κ] [LawfulBEq κ] [DecidableEq κ]

theorem lookup_cons (k : κ) (a : α) (q : κ) (es : List (κ × α)) :
    ((k, a) :: es).lookup q = if q = k then some a else es.lookup q := by
  by_cases h : q = k
  · simp [h]
  · have hb : (q == k) = false := by simpa using h
    simp [List.lookup_cons, h, hb]

theorem lookup_filter (p : κ → Bool) (q : κ) (es : List (κ × α)) :
    (es.filter fun e => p e.1).lookup q = if p q then es.lookup q else none := by
  induction es with
  | nil => simp
  | cons e rest ih =>
    obtain ⟨k, a⟩ := e
    rw [List.filter_cons, lookup_cons]
    by_cases hq : q = k
    · subst hq
      cases hp : p q with
      | true => simp
      | false => simp [ih, hp]
    · cases hp : p k with
      | true => simp [lookup_cons, hq, ih]
      | false => simp [hq, ih]

theorem lookup_filter_ne (k q : κ) (es : List (κ × α)) :
    (es.filter fun e => e.1 ≠ k).lookup q = if q = k then none else es.lookup q := by
  rw [lookup_filter (fun x => decide (x ≠ k))]
  by_cases hq : q = k
  · simp [hq]
  · simp [hq]

theorem mem_of_lookup_eq_some {k : κ} {a : α} {es : List (κ × α)} (h : es.lookup k = some a) :
    (k, a) ∈ es := by
  induction es with
  | nil => nomatch h
  | cons e rest ih =>
    rw [lookup_cons] at h
    split at h
    · next hk =>
      cases h
      exact hk ▸ List.mem_cons_self
    · exact List.mem_cons_of_mem _ (ih h)

theorem lookup_eq_some_iff {k : κ} {a : α} {es : List (κ × α)} (h : (es.map Prod.fst).Nodup) :
    es.lookup k = some a ↔ (k, a) ∈ es := by
  refine ⟨mem_of_lookup_eq_some, ?_⟩
  induction es with
  | nil => simp
  | cons e es ih =>
    obtain ⟨q, b⟩ := e
    rw [List.map_cons, List.nodup_cons] at h
    rw [lookup_cons, List.mem_cons]
    rintro (heq | hmem)
    · cases heq
      exact if_pos rfl
    · have hk : k ≠ q := fun hk => h.1 (List.mem_map.mpr ⟨_, hmem, hk⟩)
      rw [if_neg hk]
      exact ih h.2 hmem

end SitePreview.Keyed
