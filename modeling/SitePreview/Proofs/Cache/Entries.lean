import SitePreview.Cache
import SitePreview.Keyed

/-! The entries of a cache as a map by key, and what a value that is put in does to it: its own key
takes the new entry, and one other key is given up if the value comes under a new key and there is
no room. -/

namespace SitePreview

/-- The entry of a value that is put in at a time. -/
def CachePolicy.entry {α : Type} (p : CachePolicy) (now : Seconds) (value : α) : CacheEntry α :=
  ⟨value, now, now + p.lifetime⟩

namespace Cache

variable {α : Type} {c : Cache α} {key k : CacheKey} {e : CacheEntry α}
  {es : List (CacheKey × CacheEntry α)}

theorem lookup_setEntry (key k : CacheKey) (entry : CacheEntry α)
    (es : List (CacheKey × CacheEntry α)) :
    (setEntry key entry es).lookup k = if k = key then some entry else es.lookup k := by
  induction es with
  | nil => exact Keyed.lookup_cons key entry k []
  | cons e es ih =>
    obtain ⟨x, a⟩ := e
    rw [setEntry]
    split
    · next h =>
      subst h
      rw [Keyed.lookup_cons, Keyed.lookup_cons]
      split <;> rfl
    · next h =>
      rw [Keyed.lookup_cons, Keyed.lookup_cons, ih]
      split
      · next hx => rw [if_neg fun hk => h (hx.symm.trans hk)]
      · rfl

theorem lookup_dropKey (key k : CacheKey) (es : List (CacheKey × CacheEntry α)) :
    (dropKey key es).lookup k = if k = key then none else es.lookup k :=
  Keyed.lookup_filter_ne key k es

theorem lookup_of_lookup_dropKey (h : (dropKey key es).lookup k = some e) :
    es.lookup k = some e := by
  rw [lookup_dropKey] at h
  split at h
  · cases h
  · exact h

theorem lookup_invalidate (c : Cache α) (project : Text) (k : CacheKey) :
    (c.invalidate project).entries.lookup k =
      if k.project = project then none else c.entries.lookup k := by
  have hfilter := Keyed.lookup_filter (fun x : CacheKey => decide (x.project ≠ project)) k c.entries
  rw [invalidate]
  dsimp only
  rw [hfilter]
  by_cases hk : k.project = project
  · simp [hk]
  · simp [hk]

theorem fst_setEntry (key : CacheKey) (entry : CacheEntry α)
    (es : List (CacheKey × CacheEntry α)) :
    (setEntry key entry es).map Prod.fst =
      if key ∈ es.map Prod.fst then es.map Prod.fst else es.map Prod.fst ++ [key] := by
  induction es with
  | nil => rfl
  | cons e es ih =>
    obtain ⟨x, a⟩ := e
    rw [setEntry]
    by_cases h : x = key
    · rw [if_pos h, h]
      simp
    · have h' : key ≠ x := fun hk => h hk.symm
      rw [if_neg h, List.map_cons, ih]
      by_cases hm : key ∈ es.map Prod.fst
      · simp only [List.map_cons, List.mem_cons, hm, or_true, if_true]
      · simp only [List.map_cons, List.mem_cons, h', hm, or_false, if_false, List.cons_append]

theorem nodup_setEntry (h : (es.map Prod.fst).Nodup) :
    ((setEntry key e es).map Prod.fst).Nodup := by
  rw [fst_setEntry]
  split
  · exact h
  · next hkey =>
    refine List.nodup_append.mpr ⟨h, by simp, fun a ha b hb hab => ?_⟩
    rw [List.mem_singleton.mp hb] at hab
    exact hkey (hab ▸ ha)

theorem nodup_filter {p : CacheKey × CacheEntry α → Bool} (h : (es.map Prod.fst).Nodup) :
    ((es.filter p).map Prod.fst).Nodup :=
  h.sublist (List.filter_sublist.map Prod.fst)

theorem length_setEntry_le (key : CacheKey) (e : CacheEntry α)
    (es : List (CacheKey × CacheEntry α)) : (setEntry key e es).length ≤ es.length + 1 := by
  have hlength := congrArg List.length (fst_setEntry key e es)
  rw [List.length_map] at hlength
  rw [hlength]
  split
  · simp
  · simp

theorem length_setEntry_of_mem (h : (es.lookup key).isSome) :
    (setEntry key e es).length = es.length := by
  obtain ⟨x, hx⟩ := Option.isSome_iff_exists.mp h
  have hkey : key ∈ es.map Prod.fst := List.mem_map.mpr ⟨_, Keyed.mem_of_lookup_eq_some hx, rfl⟩
  have hlength := congrArg List.length (fst_setEntry key e es)
  rw [if_pos hkey, List.length_map, List.length_map] at hlength
  exact hlength

theorem length_dropKey_lt (h : (key, e) ∈ es) : (dropKey key es).length < es.length := by
  rw [dropKey, List.length_filter_lt_length_iff_exists]
  exact ⟨_, h, by simp⟩

/-- The best entry among those seen and `rest` is one of them, and none of them is older. -/
theorem foldl_oldest (rest : List (CacheKey × CacheEntry α)) :
    ∀ (seen : List (CacheKey × CacheEntry α)) (best : CacheKey × CacheEntry α), best ∈ seen →
      (∀ x ∈ seen, best.2.created ≤ x.2.created) →
        let found := rest.foldl
          (fun best e => if e.2.created < best.2.created then e else best) best
        found ∈ seen ++ rest ∧ ∀ x ∈ seen ++ rest, found.2.created ≤ x.2.created := by
  induction rest with
  | nil =>
    intro seen best hbest hleast
    rw [List.append_nil]
    exact ⟨hbest, hleast⟩
  | cons e rest ih =>
    intro seen best hbest hleast
    have happend : seen ++ e :: rest = (seen ++ [e]) ++ rest := by simp
    rw [List.foldl_cons, happend]
    by_cases hlt : e.2.created < best.2.created
    · rw [if_pos hlt]
      refine ih _ e (by simp) fun x hx => ?_
      rcases List.mem_append.mp hx with hx | hx
      · exact Seconds.le_trans (Seconds.le_of_lt hlt) (hleast x hx)
      · rw [List.mem_singleton.mp hx]
        exact Seconds.le_refl _
    · rw [if_neg hlt]
      refine ih _ best (List.mem_append_left _ hbest) fun x hx => ?_
      rcases List.mem_append.mp hx with hx | hx
      · exact hleast x hx
      · rw [List.mem_singleton.mp hx]
        exact Seconds.not_lt.mp hlt

/-- The oldest entry is one of those there are, and none of them is older. -/
theorem exists_oldest? (h : es ≠ []) :
    ∃ k e, oldest? es = some k ∧ (k, e) ∈ es ∧ ∀ x ∈ es, e.created ≤ x.2.created := by
  cases es with
  | nil => exact absurd rfl h
  | cons e es =>
    have hfirst : ∀ x ∈ [e], e.2.created ≤ x.2.created := fun x hx =>
      List.mem_singleton.mp hx ▸ Seconds.le_refl _
    exact ⟨_, _, rfl, foldl_oldest es [e] e List.mem_cons_self hfirst⟩

/-- A value under a new key makes the cache give up the entry of `victim`: there is no room, and
none of the entries was created earlier. -/
structure GivesUp (c : Cache α) (key victim : CacheKey) (e : CacheEntry α) : Prop where
  new : c.entries.lookup key = none
  full : c.policy.capacity ≤ c.entries.length
  stored : c.entries.lookup victim = some e
  first : ∀ k x, c.entries.lookup k = some x → e.created ≤ x.created

/-- A put into an enabled cache either needs no room or gives up an entry. -/
theorem put_cases (henabled : c.policy.enabled = true) (hroom : 1 ≤ c.policy.capacity)
    (hkeys : (c.entries.map Prod.fst).Nodup) (now : Seconds) (key : CacheKey) (value : α) :
    (((c.entries.lookup key).isSome ∨ (c.entries.length : Int) < c.policy.capacity) ∧
      c.put now key value =
        some { c with entries := setEntry key (c.policy.entry now value) c.entries }) ∨
    ∃ victim e, c.GivesUp key victim e ∧
      c.put now key value = some { c with
        entries := setEntry key (c.policy.entry now value) (dropKey victim c.entries) } := by
  simp only [put, henabled, Bool.not_true, Bool.false_eq_true, if_false]
  split
  · next hfull =>
    rw [Bool.and_eq_true, decide_eq_true_eq, Option.isNone_iff_eq_none] at hfull
    have hne : c.entries ≠ [] := by
      intro hnil
      rw [hnil, List.length_nil] at hfull
      omega
    obtain ⟨victim, e, hvictim, hmem, hfirst⟩ := exists_oldest? hne
    refine .inr ⟨victim, e, ⟨hfull.2, hfull.1, ?_, fun k x hx => ?_⟩, ?_⟩
    · exact (Keyed.lookup_eq_some_iff hkeys).mpr hmem
    · exact hfirst (k, x) (Keyed.mem_of_lookup_eq_some hx)
    · rw [hvictim]
      rfl
  · next hfull =>
    refine .inl ⟨?_, rfl⟩
    rw [Bool.and_eq_true, decide_eq_true_eq, Option.isNone_iff_eq_none] at hfull
    cases hkey : c.entries.lookup key with
    | some _ => exact .inl rfl
    | none => exact .inr (Int.not_le.mp fun hle => hfull ⟨hle, hkey⟩)

end Cache

end SitePreview
