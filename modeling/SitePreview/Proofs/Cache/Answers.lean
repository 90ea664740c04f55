import SitePreview.Proofs.Cache.Runs
import SitePreview.Proofs.Settings.Limits

/-! What can be relied on of a cache in use, at every reading of a clock that never goes back. How
old an answer may be is said up to the rounding of its last moment, which is a double as the
readings are. -/

namespace SitePreview.Cache

variable {α : Type} {policy : CachePolicy} {calls : List (Call α)} {c : Cache α}
  {key : CacheKey} {v : α} {t now : Seconds}

/-- A reading of the clock behind all calls so far. -/
structure Reading (calls : List (Call α)) (now : Seconds) : Prop where
  finite : now.IsFinite
  last : ∀ call ∈ calls, call.time ≤ now

/-- The cache behind calls has no more entries than there is room for and has counted every get. Its
values are those put in last, none of them older than the lifetime, and such a value is missing only
if a put of another key found no room and gave its entry up. A put gives up an entry only for a new
key that finds no room: one that was created first of all, and no live one while another is too old
to be found. -/
structure Behaves (policy : CachePolicy) (calls : List (Call α)) (c : Cache α) : Prop where
  keys : (c.entries.map Prod.fst).Nodup
  bounded : (c.entries.length : Int) ≤ policy.capacity
  counted : c.hits + c.misses = if policy.enabled then calls.countP Call.isGet else 0
  fresh : ∀ key v now, Reading calls now → (c.get now key).1 = some v → policy.enabled = true ∧
    ∃ t, lastPut? key calls = some (v, t) ∧ Seconds.Within t policy.lifetime now
  missed : ∀ key v t now, Reading calls now → policy.enabled = true →
    (c.get now key).1 = none → lastPut? key calls = some (v, t) →
    now.steps - t.steps ≤ policy.lifetime.steps → Evicted policy calls key (policy.entry t v)
  put : ∀ key value now, ∃ c', c.put now key value = some c' ∧
    ∀ k e, k ≠ key → c.entries.lookup k = some e → c'.entries.lookup k = none →
      c.GivesUp key k e ∧
      ∀ k' e', c.entries.lookup k' = some e' → e'.expires < now → e.expires < now

namespace Follows

theorem fresh (h : Follows policy calls c) (hcalls : ∀ call ∈ calls, call.time.IsFinite)
    (hnow : Reading calls now) (hget : (c.get now key).1 = some v) : policy.enabled = true ∧
      ∃ t, lastPut? key calls = some (v, t) ∧ Seconds.Within t policy.lifetime now := by
  rw [Cache.get] at hget
  split at hget
  · cases hget
  split at hget
  · cases hget
  next e he =>
  split at hget
  · cases hget
  next hlive =>
  obtain ⟨henabled, v', t, hlast, rfl⟩ := h.stored key e he
  cases hget
  obtain ⟨call, hcall, htime⟩ := exists_call_of_lastPut? hlast
  exact ⟨henabled, t, hlast,
    Seconds.within_of_le (htime ▸ hcalls call hcall) hnow.finite (Seconds.not_lt.mp hlive)⟩

theorem missed (h : Follows policy calls c) (hcalls : ∀ call ∈ calls, call.time.IsFinite)
    (hnow : Reading calls now) (henabled : policy.enabled = true)
    (hget : (c.get now key).1 = none) (hlast : lastPut? key calls = some (v, t))
    (hage : now.steps - t.steps ≤ policy.lifetime.steps) :
    Evicted policy calls key (policy.entry t v) := by
  obtain ⟨call, hcall, htime⟩ := exists_call_of_lastPut? hlast
  have hlive : now ≤ t + policy.lifetime :=
    Seconds.le_add_of_age_le (htime ▸ hcalls call hcall) hnow.finite
      (htime ▸ hnow.last call hcall) hage
  cases he : c.entries.lookup key with
  | none =>
    -- an entry that is still alive was not too old for an earlier get
    rcases h.gone henabled key v t hlast he with hevicted | ⟨earlier, hearlier, hlt⟩
    · exact hevicted
    · exact absurd (Seconds.lt_of_le_of_lt hlive hlt) (Seconds.not_lt.mpr (hnow.last _ hearlier))
  | some e =>
    obtain ⟨-, v', t', hlast', rfl⟩ := h.stored key e he
    rw [hlast] at hlast'
    cases hlast'
    rw [Cache.get, h.policy_eq, henabled] at hget
    simp only [Bool.not_true, Bool.false_eq_true, if_false, he] at hget
    have hunexpired : ¬ (policy.entry t v).expires < now := Seconds.not_lt.mpr hlive
    rw [if_neg hunexpired] at hget
    cases hget

/-- Entries expire in the order in which they were created. -/
theorem expires_le (h : Follows policy calls c) (hcalls : ∀ call ∈ calls, call.time.IsFinite)
    {k k' : CacheKey} {e e' : CacheEntry α} (he : c.entries.lookup k = some e)
    (he' : c.entries.lookup k' = some e') (hle : e.created ≤ e'.created) :
    e.expires ≤ e'.expires := by
  obtain ⟨-, v, t, hlast, rfl⟩ := h.stored k e he
  obtain ⟨-, v', t', hlast', rfl⟩ := h.stored k' e' he'
  obtain ⟨call, hcall, rfl⟩ := exists_call_of_lastPut? hlast
  obtain ⟨call', hcall', rfl⟩ := exists_call_of_lastPut? hlast'
  exact Seconds.add_le_add_right (hcalls call hcall).inside (hcalls call' hcall').inside hle

theorem behaves (h : Follows policy calls c) (hroom : 1 ≤ policy.capacity)
    (hcalls : ∀ call ∈ calls, call.time.IsFinite) : c.Behaves policy calls where
  keys := h.keys
  bounded := h.bounded
  counted := h.counted
  fresh _ _ _ hnow hget := h.fresh hcalls hnow hget
  missed _ _ _ _ hnow henabled hget hlast hage := h.missed hcalls hnow henabled hget hlast hage
  put key value now := by
    obtain rfl := h.policy_eq
    cases henabled : c.policy.enabled with
    | false =>
      refine ⟨c, ?_, fun k e _ he hnone => ?_⟩
      · rw [Cache.put, henabled]
        rfl
      · rw [he] at hnone
        cases hnone
    | true =>
      rcases put_cases henabled hroom h.keys now key value with
        ⟨-, hput⟩ | ⟨victim, x, hgives, hput⟩
      · refine ⟨_, hput, fun k e hk he hnone => ?_⟩
        rw [lookup_setEntry, if_neg hk, he] at hnone
        cases hnone
      · refine ⟨_, hput, fun k e hk he hnone => ?_⟩
        rw [lookup_setEntry, if_neg hk, lookup_dropKey] at hnone
        split at hnone
        · next hvictim =>
          subst hvictim
          obtain rfl : x = e := Option.some.inj (hgives.stored.symm.trans he)
          exact ⟨hgives, fun k' e' he' hlt =>
            Seconds.lt_of_le_of_lt (h.expires_le hcalls he he' (hgives.first k' e' he')) hlt⟩
        · rw [he] at hnone
          cases hnone

end Follows

/-- Accepted settings leave room for an entry, and with room for an entry a cache serves all calls
and behaves as it should behind them. -/
theorem runs_behave :
    (∀ overrides environment envFile s, Settings.load overrides environment envFile = .ok s →
      1 ≤ s.cachePolicy.capacity) ∧
    ∀ (policy : CachePolicy) (calls : List (Call α)), 1 ≤ policy.capacity →
      (∀ call ∈ calls, call.time.IsFinite) →
        ∃ c, run? policy calls = some c ∧ c.Behaves policy calls := by
  refine ⟨fun _ _ _ _ => Settings.one_le_capacity_of_load, fun policy calls hroom hcalls => ?_⟩
  obtain ⟨c, hrun, hfollows⟩ := exists_follows hroom calls
  exact ⟨c, hrun, hfollows.behaves hroom hcalls⟩

/-- Room for one entry, which lives for ten seconds. -/
def single : CachePolicy := { lifetime := .ofInt 10, capacity := 1 }

/-- The summaries of two projects, one second apart. -/
def twoSummaries : List (Call Nat) :=
  [⟨.ofInt 100, .put ⟨"summary", "p1"⟩ 1⟩, ⟨.ofInt 101, .put ⟨"summary", "p2"⟩ 2⟩]

/-- With room for one of the two summaries, the second is found as long as it lives, and the first
is missed because it was given up for it. -/
theorem runs_behave_twoSummaries :
    ∃ c, run? single twoSummaries = some c ∧
      (c.get (.ofInt 111) ⟨"summary", "p2"⟩).1 = some 2 ∧
      Seconds.Within (.ofInt 101) (.ofInt 10) (.ofInt 111) ∧
      (c.get (.ofInt 110) ⟨"summary", "p1"⟩).1 = none ∧
      Evicted single twoSummaries ⟨"summary", "p1"⟩ (single.entry (.ofInt 100) 1) := by
  obtain ⟨c, hrun, hbehaves⟩ :=
    (runs_behave (α := Nat)).2 single twoSummaries (by decide) (by decide +kernel)
  have hc : c = { policy := single, entries := [(⟨"summary", "p2"⟩, single.entry (.ofInt 101) 2)] } :=
    Option.some.inj (hrun.symm.trans (by decide +kernel))
  have hfound : (c.get (.ofInt 111) ⟨"summary", "p2"⟩).1 = some 2 := by
    rw [hc]
    decide +kernel
  have hmissed : (c.get (.ofInt 110) ⟨"summary", "p1"⟩).1 = none := by
    rw [hc]
    decide +kernel
  obtain ⟨-, t, hlast, hwithin⟩ :=
    hbehaves.fresh _ _ _ ⟨by decide +kernel, by decide +kernel⟩ hfound
  have hput : lastPut? ⟨"summary", "p2"⟩ twoSummaries = some (2, .ofInt 101) := by decide +kernel
  have ht : Seconds.ofInt 101 = t :=
    (Prod.mk.inj (Option.some.inj (hput.symm.trans hlast))).2
  subst ht
  exact ⟨c, hrun, hfound, hwithin, hmissed,
    hbehaves.missed _ _ _ _ ⟨by decide +kernel, by decide +kernel⟩ rfl hmissed
      (by decide +kernel : _ = some (1, Seconds.ofInt 100)) (by decide +kernel)⟩

/-- A summary that is to live for one second, taken when doubles count every other second. -/
def farSummary : List (Call Nat) := [⟨.ofInt (2 ^ 53 + 2), .put ⟨"summary", "p1"⟩ 7⟩]

/-- Rounding the last moment of a value can make it live longer: two seconds behind its put, a value
with a lifetime of one second is still found. -/
theorem outlives_farSummary :
    (∀ call ∈ farSummary, call.time.IsFinite ∧ call.time ≤ .ofInt (2 ^ 53 + 4)) ∧
    (Seconds.ofInt (2 ^ 53 + 4)).IsFinite ∧
    ((run? { lifetime := .ofInt 1 } farSummary).map fun c =>
      (c.get (.ofInt (2 ^ 53 + 4)) ⟨"summary", "p1"⟩).1) = some (some 7) ∧
    lastPut? ⟨"summary", "p1"⟩ farSummary = some (7, .ofInt (2 ^ 53 + 2)) ∧
    ¬ (Seconds.ofInt (2 ^ 53 + 4)).steps - (Seconds.ofInt (2 ^ 53 + 2)).steps ≤
      (Seconds.ofInt 1).steps := by
  decide +kernel

end SitePreview.Cache
