import SitePreview.Seconds
import SitePreview.Proofs.Decimal.Rounding

/-! Readings of a clock, and how old a value is at one of them. The moment up to which a value is
valid is a sum that is rounded to a double: it never lies before a reading that the exact sum
reaches, and it exceeds the exact sum by no more than a `2 ^ 53`rd part of it. -/

namespace SitePreview.Seconds

variable {s t created lifetime now : Seconds}

/-- The seconds are a finite double, as the readings of a clock are. -/
structure IsFinite (s : Seconds) : Prop where
  rounded : ofSteps s.steps = s
  inside : s.isInfinite = false

instance (s : Seconds) : Decidable s.IsFinite :=
  decidable_of_iff (ofSteps s.steps = s ∧ s.isInfinite = false)
    ⟨fun h => ⟨h.1, h.2⟩, fun h => ⟨h.rounded, h.inside⟩⟩

/-- The steps of a double without its sign. -/
def magnitude (n : Nat) : Nat := min (Decimal.roundSteps n) Decimal.stepsOfEdge

theorem magnitude_mono {m n : Nat} (h : m ≤ n) : magnitude m ≤ magnitude n :=
  min_le_min_right _ (Decimal.roundSteps_mono h)

theorem steps_ofSteps (n : Int) :
    (ofSteps n).steps = if n < 0 then -(magnitude n.natAbs : Int) else magnitude n.natAbs := rfl

theorem ofSteps_mono {m n : Int} (h : m ≤ n) : ofSteps m ≤ ofSteps n := by
  change (ofSteps m).steps ≤ (ofSteps n).steps
  rw [steps_ofSteps, steps_ofSteps]
  split
  · next hm =>
    split
    · next hn =>
      have hmag : magnitude n.natAbs ≤ magnitude m.natAbs := magnitude_mono (by omega)
      omega
    · omega
  · next hm =>
    have hmag : magnitude m.natAbs ≤ magnitude n.natAbs := magnitude_mono (by omega)
    rw [if_neg (by omega)]
    exact Int.ofNat_le.mpr hmag

theorem IsFinite.natAbs_lt (h : s.IsFinite) : s.steps.natAbs < Decimal.stepsOfEdge := by
  have hle : s.steps.natAbs ≤ Decimal.stepsOfEdge := by
    rw [← h.rounded, steps_ofSteps]
    have hmag : magnitude s.steps.natAbs ≤ Decimal.stepsOfEdge := min_le_right _ _
    split <;> omega
  have hne : s.steps.natAbs ≠ Decimal.stepsOfEdge := of_decide_eq_false h.inside
  omega

theorem add_of_infinite (hs : s.isInfinite = false) (ht : t.isInfinite = true) : s + t = t := by
  change add s t = t
  rw [add, if_neg (by simp [hs]), if_pos ht]

theorem add_of_finite (hs : s.isInfinite = false) (ht : t.isInfinite = false) :
    s + t = ofSteps (s.steps + t.steps) := by
  change add s t = _
  rw [add, if_neg (by simp [hs]), if_neg (by simp [ht])]

/-- What was created later is valid as long, or longer. -/
theorem add_le_add_right (hs : s.isInfinite = false) (ht : t.isInfinite = false) (h : s ≤ t) :
    s + lifetime ≤ t + lifetime := by
  cases hl : lifetime.isInfinite with
  | true =>
    rw [add_of_infinite hs hl, add_of_infinite ht hl]
    exact le_refl _
  | false =>
    rw [add_of_finite hs hl, add_of_finite ht hl]
    exact ofSteps_mono (Int.add_le_add_right h _)

/-- Rounding ends no life early: a reading that is no farther from the creation than the lifetime
is not past the end. -/
theorem le_add_of_age_le (hcreated : created.IsFinite) (hnow : now.IsFinite) (hle : created ≤ now)
    (hage : now.steps - created.steps ≤ lifetime.steps) : now ≤ created + lifetime := by
  cases hl : lifetime.isInfinite with
  | true =>
    rw [add_of_infinite hcreated.inside hl]
    have hedge : lifetime.steps.natAbs = Decimal.stepsOfEdge := of_decide_eq_true hl
    have hlt := hnow.natAbs_lt
    change created.steps ≤ now.steps at hle
    change now.steps ≤ lifetime.steps
    omega
  | false =>
    rw [add_of_finite hcreated.inside hl, ← hnow.rounded]
    exact ofSteps_mono (by omega)

/-- At a reading, something created earlier is no older than its lifetime, up to the rounding of the
moment at which this ends. -/
structure Within (created lifetime now : Seconds) : Prop where
  due : now ≤ created + lifetime
  near : lifetime.isInfinite = false →
    2 ^ 53 * (now.steps - created.steps - lifetime.steps) ≤
      (created.steps + lifetime.steps).natAbs
  exact : lifetime.isInfinite = false →
    (ofSteps (created.steps + lifetime.steps)).steps = created.steps + lifetime.steps →
      now.steps - created.steps ≤ lifetime.steps

/-- Rounding adds a `2 ^ 53`rd part at most, unless it leaves the finite doubles downwards. -/
theorem steps_ofSteps_le (n : Int) :
    2 ^ 53 * (ofSteps n).steps ≤ 2 ^ 53 * n + n.natAbs ∨
      (ofSteps n).steps = -(Decimal.stepsOfEdge : Int) := by
  have hnear := Decimal.roundSteps_near n.natAbs
  rw [steps_ofSteps, magnitude]
  rcases Nat.le_total (Decimal.roundSteps n.natAbs) Decimal.stepsOfEdge with hle | hle
  · rw [Nat.min_eq_left hle]
    left
    split <;> omega
  · rw [Nat.min_eq_right hle]
    split
    · exact .inr rfl
    · left
      omega

theorem within_of_le (hcreated : created.IsFinite) (hnow : now.IsFinite)
    (hdue : now ≤ created + lifetime) : Within created lifetime now := by
  have hfinite (hl : lifetime.isInfinite = false) :
      now.steps ≤ (ofSteps (created.steps + lifetime.steps)).steps := by
    rw [add_of_finite hcreated.inside hl] at hdue
    exact hdue
  refine ⟨hdue, fun hl => ?_, fun hl hexact => ?_⟩
  · have hle := hfinite hl
    have hlt := hnow.natAbs_lt
    rcases steps_ofSteps_le (created.steps + lifetime.steps) with hround | hround
    · omega
    · omega
  · have hle := hfinite hl
    omega

end SitePreview.Seconds
