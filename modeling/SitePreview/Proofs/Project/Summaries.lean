import SitePreview.Proofs.Cache.Entries
import SitePreview.Proofs.Project.Operations

/-! Cached summaries. Whatever is done to the cache, a value that it has under a key was put there
under this key or was there before: look-ups and values that come in under other keys can only make
it vanish. -/

namespace SitePreview

namespace Cache

variable {α : Type} {c c' : Cache α} {key k : CacheKey} {v value : α} {now : Seconds}

/-- The value of a key, expired or not. -/
def valueOf? (c : Cache α) (key : CacheKey) : Option α :=
  (c.entries.lookup key).map CacheEntry.value

theorem mem_valueOf?_of_get (h : (c.get now key).2.valueOf? k = some v) :
    c.valueOf? k = some v := by
  rw [get] at h
  split at h
  · exact h
  split at h
  · exact h
  split at h
  · obtain ⟨e, he, hv⟩ := Option.map_eq_some_iff.mp h
    exact Option.map_eq_some_iff.mpr ⟨e, lookup_of_lookup_dropKey he, hv⟩
  · exact h

theorem valueOf?_of_get (h : (c.get now key).1 = some v) : c.valueOf? key = some v := by
  rw [get] at h
  split at h
  · cases h
  split at h
  · cases h
  next e he =>
  split at h
  · cases h
  · rw [valueOf?, he]
    exact h

/-- The value of a key behind a value that was put in, which may have made room for itself. -/
theorem valueOf?_of_put (h : c.put now key value = some c') (hv : c'.valueOf? k = some v) :
    k = key ∧ v = value ∨ c.valueOf? k = some v := by
  have hset {es : List (CacheKey × CacheEntry α)} {entry : CacheEntry α}
      (hentry : entry.value = value)
      (hes : ∀ e, es.lookup k = some e → c.entries.lookup k = some e)
      (hv : ((setEntry key entry es).lookup k).map CacheEntry.value = some v) :
      k = key ∧ v = value ∨ c.valueOf? k = some v := by
    rw [lookup_setEntry] at hv
    split at hv
    · next hk => exact .inl ⟨hk, (Option.some.inj hv).symm.trans hentry⟩
    · obtain ⟨e, he, rfl⟩ := Option.map_eq_some_iff.mp hv
      exact .inr (Option.map_eq_some_iff.mpr ⟨e, hes e he, rfl⟩)
  rw [put] at h
  split at h
  · cases h
    exact .inr hv
  dsimp only at h
  split at h
  · obtain ⟨_, _, rfl⟩ := Option.map_eq_some_iff.mp h
    exact hset rfl (fun _ => lookup_of_lookup_dropKey) hv
  · cases h
    exact hset rfl (fun _ he => he) hv

theorem valueOf?_invalidate (c : Cache α) (project : Text) (k : CacheKey) :
    (c.invalidate project).valueOf? k = if k.project = project then none else c.valueOf? k := by
  rw [valueOf?, lookup_invalidate]
  split
  · rfl
  · rfl

end Cache

namespace Backend

variable {b : Backend} {project p : Text} {v : Cached}

/-- What the cache has as the summary of a project, expired or not. -/
def summaryOf? (b : Backend) (project : Text) : Option Cached :=
  b.cache.bind fun c => c.valueOf? ⟨Operation.summaryKind, project⟩

theorem summaryOf?_of_lookedUp (h : (b.lookedUp p).2.summaryOf? project = some v) :
    b.summaryOf? project = some v := by
  rw [summaryOf?, lookedUp] at h
  rw [summaryOf?]
  split at h
  · exact h
  · next c hc =>
    rw [hc]
    exact Cache.mem_valueOf?_of_get h

/-- A summary that is found is the one that the cache has. -/
theorem summaryOf?_of_found {known : Summary} (h : (b.lookedUp project).1 = some known) :
    b.summaryOf? project = some (.summary known) := by
  rw [lookedUp] at h
  split at h
  · cases h
  next c hc =>
  dsimp only at h
  split at h
  · next known' hfound =>
    cases h
    rw [summaryOf?, hc]
    exact Cache.valueOf?_of_get hfound
  · cases h

theorem summaryOf?_invalidated (b : Backend) (p project : Text) :
    (b.invalidated p).summaryOf? project = if project = p then none else b.summaryOf? project := by
  rw [summaryOf?, invalidated, withCache, summaryOf?]
  cases b.cache with
  | none => exact (ite_self none).symm
  | some c => exact c.valueOf?_invalidate p _

theorem summaryOf?_of_cached {kind : Text} {value : Cached}
    (h : (b.cached p kind value).summaryOf? project = some v) :
    (project = p ∧ kind = Operation.summaryKind ∧ v = value) ∨ b.summaryOf? project = some v := by
  rw [summaryOf?, cached, withCache] at h
  rw [summaryOf?]
  cases hc : b.cache with
  | none =>
    rw [hc] at h
    cases h
  | some c =>
    rw [hc] at h
    cases hput : c.put b.clock.steady ⟨kind, p⟩ value with
    | none =>
      simp only [Option.map_some, Option.bind_some, hput, Option.getD_none] at h
      exact .inr h
    | some c' =>
      simp only [Option.map_some, Option.bind_some, hput, Option.getD_some] at h
      rcases Cache.valueOf?_of_put hput h with ⟨hk, hv⟩ | h
      · cases hk
        exact .inl ⟨rfl, rfl, hv⟩
      · exact .inr h

/-- Behind files that were put in with their summary, this is the summary of their project if there
is one, and those of the others are what they were if they are still there. -/
theorem summaryOf?_of_refreshed {files : FileSet}
    (h : (b.refreshed p files).summaryOf? project = some v) :
    if project = p then v = .summary files.summary else b.summaryOf? project = some v := by
  rcases summaryOf?_of_cached h with ⟨rfl, -, rfl⟩ | h
  · exact (if_pos rfl).mpr rfl
  rcases summaryOf?_of_cached h with ⟨-, hkind, -⟩ | h
  · exact absurd hkind (by decide)
  rw [summaryOf?_invalidated] at h
  split
  · next hp =>
    rw [if_pos hp] at h
    cases h
  · next hp =>
    rw [if_neg hp] at h
    exact h

end Backend

end SitePreview
