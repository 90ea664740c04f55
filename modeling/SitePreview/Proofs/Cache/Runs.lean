import SitePreview.Proofs.Cache.Clock
import SitePreview.Proofs.Cache.Entries
import Mathlib.Data.List.Induction

/-! Caches in use. A cache that only ever holds a bounded number of entries answers like the map of
the values that were put in last, as long as these live: it answers nothing else, and it misses such
a value only where a put of another key found no room and gave its entry up. -/

namespace SitePreview

namespace Cache

/-- What is asked of a cache. -/
inductive Request (α : Type)
  | put (key : CacheKey) (value : α)
  | get (key : CacheKey)
  | invalidate (project : Text)
  | stats

/-- A request at a reading of the clock. -/
structure Call (α : Type) where
  time : Seconds
  request : Request α

variable {α : Type} {policy : CachePolicy} {calls : List (Call α)} {call : Call α}
  {c : Cache α} {key : CacheKey} {e : CacheEntry α} {v : α} {t : Seconds}

def Call.isGet (call : Call α) : Bool :=
  match call.request with
  | .get _ => true
  | .put .. | .invalidate _ | .stats => false

/-- The last value put in under a key, and when, behind a call: a put of the key renews it, and to
drop the project ends it. -/
def Call.renew (call : Call α) (key : CacheKey) (last : Option (α × Seconds)) :
    Option (α × Seconds) :=
  match call.request with
  | .put k value => if k = key then some (value, call.time) else last
  | .invalidate project => if key.project = project then none else last
  | .get _ | .stats => last

/-- The call puts in a value under the key or drops its project. -/
def Call.Renews (call : Call α) (key : CacheKey) : Prop :=
  match call.request with
  | .put k _ => k = key
  | .invalidate project => key.project = project
  | .get _ | .stats => False

/-- The last value put in under a key, and when, unless its project was dropped since. -/
def lastPut? (key : CacheKey) (calls : List (Call α)) : Option (α × Seconds) :=
  calls.foldl (fun last call => call.renew key last) none

/-- The cache behind a call. -/
def serve? (c : Cache α) (call : Call α) : Option (Cache α) :=
  match call.request with
  | .put key value => c.put call.time key value
  | .get key => some (c.get call.time key).2
  | .invalidate project => some (c.invalidate project)
  | .stats => some c

/-- The cache that calls leave behind, from an empty one on. There is none if one of them fails. -/
def run? (policy : CachePolicy) (calls : List (Call α)) : Option (Cache α) :=
  calls.foldlM serve? { policy := policy }

/-- The entry of a key was given up to a put of another key, and nothing concerned the key since. -/
def Evicted (policy : CachePolicy) (calls : List (Call α)) (key : CacheKey) (e : CacheEntry α) :
    Prop :=
  ∃ before time other value after c c',
    calls = before ++ ⟨time, .put other value⟩ :: after ∧
    run? policy before = some c ∧ c.put time other value = some c' ∧
    other ≠ key ∧ c.GivesUp other key e ∧ c'.entries.lookup key = none ∧
    ∀ call ∈ after, ¬ call.Renews key

theorem lastPut?_append (key : CacheKey) (calls : List (Call α)) (call : Call α) :
    lastPut? key (calls ++ [call]) = call.renew key (lastPut? key calls) := by
  rw [lastPut?, List.foldl_append, ← lastPut?]
  rfl

theorem run?_append (policy : CachePolicy) (calls : List (Call α)) (call : Call α) :
    run? policy (calls ++ [call]) = (run? policy calls).bind fun c => c.serve? call := by
  rw [run?, List.foldlM_append]
  exact congrArg _ (funext fun c => List.foldlM_cons.trans (bind_pure _))

theorem Call.renew_of_not_renews {last : Option (α × Seconds)} (h : ¬ call.Renews key) :
    call.renew key last = last := by
  obtain ⟨time, request⟩ := call
  cases request with
  | put k value => exact if_neg h
  | get k => rfl
  | invalidate project => exact if_neg h
  | stats => rfl

/-- A value that a call put in last was put in at its time. -/
theorem Call.time_of_renew {last : Option (α × Seconds)} (hcall : call.Renews key)
    (h : call.renew key last = some (v, t)) : call.time = t := by
  obtain ⟨time, request⟩ := call
  cases request with
  | put k value =>
    obtain rfl : k = key := hcall
    dsimp only [Call.renew] at h
    rw [if_pos rfl] at h
    cases h
    rfl
  | get k => cases hcall
  | invalidate project =>
    obtain rfl : key.project = project := hcall
    dsimp only [Call.renew] at h
    rw [if_pos rfl] at h
    cases h
  | stats => cases hcall

theorem exists_call_of_lastPut? (h : lastPut? key calls = some (v, t)) :
    ∃ call ∈ calls, call.time = t := by
  induction calls using List.reverseRecOn with
  | nil => cases h
  | append_singleton calls call ih =>
    rw [lastPut?_append] at h
    by_cases hcall : call.Renews key
    · exact ⟨call, List.mem_append_right _ List.mem_cons_self, Call.time_of_renew hcall h⟩
    · rw [Call.renew_of_not_renews hcall] at h
      obtain ⟨earlier, hmem, htime⟩ := ih h
      exact ⟨earlier, List.mem_append_left _ hmem, htime⟩

theorem Evicted.append (h : Evicted policy calls key e) (hcall : ¬ call.Renews key) :
    Evicted policy (calls ++ [call]) key e := by
  obtain ⟨before, time, other, value, after, c, c', rfl, hrun, hput, hne, hgives, hgone, hafter⟩ := h
  refine ⟨before, time, other, value, after ++ [call], c, c', by simp, hrun, hput, hne, hgives,
    hgone, fun later hlater => ?_⟩
  rcases List.mem_append.mp hlater with hlater | hlater
  · exact hafter later hlater
  · exact List.mem_singleton.mp hlater ▸ hcall

/-- The cache is as the calls left it: an entry is that of the last put of its key, and where the
last put of a key has no entry, this was given up or found to be too old. -/
structure Follows (policy : CachePolicy) (calls : List (Call α)) (c : Cache α) : Prop where
  policy_eq : c.policy = policy
  keys : (c.entries.map Prod.fst).Nodup
  bounded : (c.entries.length : Int) ≤ policy.capacity
  counted : c.hits + c.misses = if policy.enabled then calls.countP Call.isGet else 0
  stored : ∀ key e, c.entries.lookup key = some e → policy.enabled = true ∧
    ∃ v t, lastPut? key calls = some (v, t) ∧ e = policy.entry t v
  gone : policy.enabled = true → ∀ key v t, lastPut? key calls = some (v, t) →
    c.entries.lookup key = none →
      Evicted policy calls key (policy.entry t v) ∨
      ∃ call ∈ calls, t + policy.lifetime < call.time

namespace Follows

theorem empty (hroom : 1 ≤ policy.capacity) :
    Follows (α := α) policy [] { policy := policy } where
  policy_eq := rfl
  keys := List.nodup_nil
  bounded := by
    change (0 : Int) ≤ _
    omega
  counted := by simp
  stored := nofun
  gone := nofun

/-- An entry stays that of the last put behind a call that does not concern its key. -/
theorem stored_append (h : Follows policy calls c) (hcall : ¬ call.Renews key)
    (he : c.entries.lookup key = some e) : policy.enabled = true ∧
      ∃ v t, lastPut? key (calls ++ [call]) = some (v, t) ∧ e = policy.entry t v := by
  rw [lastPut?_append, Call.renew_of_not_renews hcall]
  exact h.stored key e he

/-- A missing entry stays accounted for behind a call that does not concern its key. -/
theorem gone_append (h : Follows policy calls c) (henabled : policy.enabled = true)
    (hcall : ¬ call.Renews key) (hlast : lastPut? key (calls ++ [call]) = some (v, t))
    (hnone : c.entries.lookup key = none) :
    Evicted policy (calls ++ [call]) key (policy.entry t v) ∨
      ∃ call' ∈ calls ++ [call], t + policy.lifetime < call'.time := by
  rw [lastPut?_append, Call.renew_of_not_renews hcall] at hlast
  rcases h.gone henabled key v t hlast hnone with hevicted | ⟨earlier, hmem, hlt⟩
  · exact .inl (hevicted.append hcall)
  · exact .inr ⟨earlier, List.mem_append_left _ hmem, hlt⟩

theorem counted_append (h : Follows policy calls c) (hcall : call.isGet = false) :
    c.hits + c.misses = if policy.enabled then (calls ++ [call]).countP Call.isGet else 0 := by
  rw [h.counted, List.countP_append, List.countP_singleton, hcall]
  rfl

/-- A disabled cache stays as it is. -/
theorem of_disabled (h : Follows policy calls c) (hdisabled : policy.enabled = false)
    (call : Call α) : Follows policy (calls ++ [call]) c where
  policy_eq := h.policy_eq
  keys := h.keys
  bounded := h.bounded
  counted := by
    have hcounted := h.counted
    rw [hdisabled] at hcounted ⊢
    exact hcounted
  stored key e he := by
    have henabled := (h.stored key e he).1
    rw [hdisabled] at henabled
    cases henabled
  gone henabled := by
    rw [hdisabled] at henabled
    cases henabled

section Putting

variable {value : α} {time : Seconds}

/-- The entries behind a put are that of its key and those of others as far as they were kept. -/
theorem stored_setEntry (h : Follows policy calls c) (henabled : policy.enabled = true)
    {kept : List (CacheKey × CacheEntry α)}
    (hkept : ∀ k x, kept.lookup k = some x → c.entries.lookup k = some x) (k : CacheKey)
    (x : CacheEntry α) (hx : (setEntry key (policy.entry time value) kept).lookup k = some x) :
    policy.enabled = true ∧ ∃ v t,
      lastPut? k (calls ++ [⟨time, .put key value⟩]) = some (v, t) ∧ x = policy.entry t v := by
  rw [lookup_setEntry] at hx
  split at hx
  · next hk =>
    cases hx
    exact ⟨henabled, value, time, (lastPut?_append _ _ _).trans (if_pos hk.symm), rfl⟩
  · next hk => exact h.stored_append (Ne.symm hk) (hkept k x hx)

theorem put_fitting (h : Follows policy calls c) (henabled : policy.enabled = true)
    (hfits : (c.entries.lookup key).isSome ∨ (c.entries.length : Int) < policy.capacity) :
    Follows policy (calls ++ [⟨time, .put key value⟩])
      { c with entries := setEntry key (policy.entry time value) c.entries } where
  policy_eq := h.policy_eq
  keys := nodup_setEntry h.keys
  bounded := by
    rcases hfits with hfits | hfits
    · rw [length_setEntry_of_mem hfits]
      exact h.bounded
    · have hle := length_setEntry_le key (policy.entry time value) c.entries
      dsimp only
      omega
  counted := h.counted_append rfl
  stored := h.stored_setEntry henabled fun _ _ hx => hx
  gone _ k v t hlast hnone := by
    rw [lookup_setEntry] at hnone
    split at hnone
    · cases hnone
    · next hk => exact h.gone_append henabled (Ne.symm hk) hlast hnone

theorem put_giving_up (h : Follows policy calls c) (henabled : policy.enabled = true)
    (hrun : run? policy calls = some c) {victim : CacheKey} (hgives : c.GivesUp key victim e)
    (hput : c.put time key value = some { c with
      entries := setEntry key (policy.entry time value) (dropKey victim c.entries) }) :
    Follows policy (calls ++ [⟨time, .put key value⟩]) { c with
      entries := setEntry key (policy.entry time value) (dropKey victim c.entries) } where
  policy_eq := h.policy_eq
  keys := nodup_setEntry (nodup_filter h.keys)
  bounded := by
    have hle := length_setEntry_le key (policy.entry time value) (dropKey victim c.entries)
    have hlt := length_dropKey_lt (Keyed.mem_of_lookup_eq_some hgives.stored)
    have hbounded := h.bounded
    dsimp only
    omega
  counted := h.counted_append rfl
  stored := h.stored_setEntry henabled fun _ _ => lookup_of_lookup_dropKey
  gone _ k v t hlast hnone := by
    have hgone := hnone
    rw [lookup_setEntry, lookup_dropKey] at hnone
    split at hnone
    · cases hnone
    next hk =>
    split at hnone
    · next hvictim =>
      -- the entry that was given up is that of the last put
      subst hvictim
      obtain ⟨-, v', t', hlast', rfl⟩ := h.stored k e hgives.stored
      rw [lastPut?_append] at hlast
      dsimp only [Call.renew] at hlast
      rw [if_neg (Ne.symm hk), hlast'] at hlast
      cases hlast
      exact .inl ⟨calls, time, key, value, [], c, _, rfl, hrun, hput, Ne.symm hk, hgives, hgone,
        nofun⟩
    · exact h.gone_append henabled (Ne.symm hk) hlast hnone

theorem put (h : Follows policy calls c) (hrun : run? policy calls = some c)
    (hroom : 1 ≤ policy.capacity) (time : Seconds) (key : CacheKey) (value : α) :
    ∃ c', c.put time key value = some c' ∧
      Follows policy (calls ++ [⟨time, .put key value⟩]) c' := by
  obtain rfl := h.policy_eq
  cases henabled : c.policy.enabled with
  | false =>
    refine ⟨c, ?_, h.of_disabled henabled _⟩
    rw [Cache.put, henabled]
    rfl
  | true =>
    rcases put_cases henabled hroom h.keys time key value with
      ⟨hfits, hput⟩ | ⟨victim, e, hgives, hput⟩
    · exact ⟨_, hput, h.put_fitting henabled hfits⟩
    · exact ⟨_, hput, h.put_giving_up henabled hrun hgives hput⟩

end Putting

section Getting

variable {time : Seconds}

theorem counted_get (h : Follows policy calls c) (henabled : policy.enabled = true)
    (time : Seconds) (key : CacheKey) :
    c.hits + c.misses + 1 = if policy.enabled then
      List.countP Call.isGet (calls ++ [⟨time, .get key⟩]) else 0 := by
  rw [h.counted, if_pos henabled, if_pos henabled, List.countP_append]
  rfl

/-- A get that leaves the entries as they are moves a counter. -/
theorem get_keeping (h : Follows policy calls c) (henabled : policy.enabled = true)
    {hits misses : Nat} (hcount : hits + misses = c.hits + c.misses + 1) :
    Follows policy (calls ++ [⟨time, .get key⟩]) { c with hits := hits, misses := misses } where
  policy_eq := h.policy_eq
  keys := h.keys
  bounded := h.bounded
  counted := hcount.trans (h.counted_get henabled time key)
  stored _ _ hx := h.stored_append id hx
  gone _ _ _ _ hlast hnone := h.gone_append henabled id hlast hnone

/-- An entry that is too old is dropped by the get that finds it. -/
theorem get_dropping (h : Follows policy calls c) (henabled : policy.enabled = true)
    (hkey : c.entries.lookup key = some e) (hexpired : e.expires < time) :
    Follows policy (calls ++ [⟨time, .get key⟩])
      { c with entries := dropKey key c.entries, misses := c.misses + 1 } where
  policy_eq := h.policy_eq
  keys := nodup_filter h.keys
  bounded := by
    have hlt := length_dropKey_lt (Keyed.mem_of_lookup_eq_some hkey)
    have hbounded := h.bounded
    dsimp only
    omega
  counted := h.counted_get henabled time key
  stored _ _ hx := h.stored_append id (lookup_of_lookup_dropKey hx)
  gone _ k v t hlast hnone := by
    rw [lookup_dropKey] at hnone
    split at hnone
    · next hk =>
      subst hk
      have hidle : ¬ (⟨time, .get k⟩ : Call α).Renews k := id
      obtain ⟨-, v', t', hlast', rfl⟩ := h.stored_append hidle hkey
      rw [hlast'] at hlast
      cases hlast
      exact .inr ⟨⟨time, .get k⟩, by simp, hexpired⟩
    · exact h.gone_append henabled id hlast hnone

/-- A get leaves the entries as they are, unless it drops one that is too old. -/
theorem get (h : Follows policy calls c) (time : Seconds) (key : CacheKey) :
    Follows policy (calls ++ [⟨time, .get key⟩]) (c.get time key).2 := by
  obtain rfl := h.policy_eq
  rw [Cache.get]
  cases henabled : c.policy.enabled with
  | false => exact h.of_disabled henabled _
  | true =>
    simp only [Bool.not_true, Bool.false_eq_true, if_false]
    cases hkey : c.entries.lookup key with
    | none => exact h.get_keeping henabled (by omega)
    | some e =>
      dsimp only
      split
      · next hexpired => exact h.get_dropping henabled hkey hexpired
      · exact h.get_keeping henabled (by omega)

end Getting

theorem invalidate (h : Follows policy calls c) (time : Seconds) (project : Text) :
    Follows policy (calls ++ [⟨time, .invalidate project⟩]) (c.invalidate project) where
  policy_eq := h.policy_eq
  keys := nodup_filter h.keys
  bounded := by
    have hle := List.length_filter_le
      (fun e : CacheKey × CacheEntry α => decide (e.1.project ≠ project)) c.entries
    have hbounded := h.bounded
    rw [Cache.invalidate]
    dsimp only
    omega
  counted := h.counted_append rfl
  stored k x hx := by
    rw [lookup_invalidate] at hx
    split at hx
    · cases hx
    · next hproject => exact h.stored_append hproject hx
  gone henabled k v t hlast hnone := by
    have hproject : k.project ≠ project := by
      intro hproject
      rw [lastPut?_append] at hlast
      dsimp only [Call.renew] at hlast
      rw [if_pos hproject] at hlast
      cases hlast
    rw [lookup_invalidate, if_neg hproject] at hnone
    exact h.gone_append henabled hproject hlast hnone

theorem stats (h : Follows policy calls c) (time : Seconds) :
    Follows policy (calls ++ [⟨time, .stats⟩]) c where
  policy_eq := h.policy_eq
  keys := h.keys
  bounded := h.bounded
  counted := h.counted_append rfl
  stored _ _ hx := h.stored_append id hx
  gone henabled _ _ _ hlast hnone := h.gone_append henabled id hlast hnone

end Follows

/-- With room for an entry, every call is served. -/
theorem exists_follows (hroom : 1 ≤ policy.capacity) (calls : List (Call α)) :
    ∃ c, run? policy calls = some c ∧ Follows policy calls c := by
  induction calls using List.reverseRecOn with
  | nil => exact ⟨_, rfl, .empty hroom⟩
  | append_singleton calls call ih =>
    obtain ⟨c, hrun, hfollows⟩ := ih
    rw [run?_append, hrun, Option.bind_some]
    obtain ⟨time, request⟩ := call
    cases request with
    | put key value => exact hfollows.put hrun hroom time key value
    | get key => exact ⟨_, rfl, hfollows.get time key⟩
    | invalidate project => exact ⟨_, rfl, hfollows.invalidate time project⟩
    | stats => exact ⟨_, rfl, hfollows.stats time⟩

end Cache

end SitePreview
