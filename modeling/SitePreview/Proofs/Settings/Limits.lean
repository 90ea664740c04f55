import SitePreview.Proofs.Project.Storable
import SitePreview.Settings.Load

/-! Accepted settings keep their limits: whatever sets it, the capacity of the cache is at least one
entry. -/

namespace SitePreview

namespace Settings

theorem one_le_of_positive {v : Json} {n : Int} (h : positive v = .ok n) : 1 ≤ n := by
  rw [positive] at h
  split at h
  · split at h
    · cases h
    · cases h
      omega
  · cases h

theorem one_le_of_member {members : List (Text × Json)} {name : Text} {default n : Int}
    (hdefault : 1 ≤ default) (h : Checked.member members name default positive = .ok n) :
    1 ≤ n := by
  rw [Checked.member] at h
  split at h
  · exact one_le_of_positive (Checked.inside_eq_ok.mp h)
  · cases h
    exact hdefault

theorem one_le_of_check {members : List (Text × Json)} {s : Settings}
    (h : check members = .ok s) : 1 ≤ s.cacheMaxEntries := by
  unfold check at h
  extract_lets default settings strays at h
  have hroom : ∀ s, settings = .ok s → 1 ≤ s.cacheMaxEntries := by
    simp only [settings, Checked.forall_seq, Checked.forall_map]
    -- nine fields come before this one
    intro _ _ _ _ _ _ _ _ _ _ _ _ _ _ _ _ _ _ n hn
    intros
    exact one_le_of_member (by decide) hn
  cases hs : settings with
  | bad is =>
    rw [hs] at h
    cases h
  | ok s' =>
    rw [hs] at h
    dsimp only at h
    split at h
    · obtain rfl := Checked.ok.inj h
      exact hroom _ hs
    · cases h

/-- Accepted settings leave room for an entry in the cache. -/
theorem one_le_capacity_of_load {overrides : List (Text × Json)}
    {environment : List (Text × Text)} {envFile : Text} {s : Settings}
    (h : load overrides environment envFile = .ok s) : 1 ≤ s.cachePolicy.capacity := by
  unfold load at h
  extract_lets bindings vars at h
  cases henvironment : ofVariables .environment (lowered bindings) with
  | error e =>
    rw [henvironment] at h
    cases h
  | ok fromEnvironment =>
  cases hfile : ofVariables .envFile vars with
  | error e =>
    rw [henvironment, hfile] at h
    cases h
  | ok fromFile =>
  rw [henvironment, hfile] at h
  simp only [bind, Except.bind] at h
  split at h
  · next hcheck =>
    cases h
    exact one_le_of_check hcheck
  · cases h

end Settings

end SitePreview
