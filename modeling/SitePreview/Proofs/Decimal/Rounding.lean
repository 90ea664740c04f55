import SitePreview.Decimal.Binary
import Mathlib.Tactic.Ring

/-! Rounding to the nearest double, in steps of the least positive one. It keeps the order, and it
moves a number by no more than its `2 ^ 53`rd part. -/

namespace SitePreview.Decimal

theorem roundDiv_near (n : Nat) {d : Nat} (hd : 0 < d) :
    2 * (roundDiv n d * d) ≤ 2 * n + d ∧ 2 * n ≤ 2 * (roundDiv n d * d) + d := by
  have hn : n / d * d + n % d = n := Nat.div_add_mod' n d
  have hlt := Nat.mod_lt n hd
  have hsucc : (n / d + 1) * d = n / d * d + d := by ring
  rw [roundDiv]
  split
  · omega
  split
  · rw [hsucc]
    omega
  split
  · omega
  · rw [hsucc]
    omega

theorem roundDiv_mul_right (k : Nat) {d : Nat} (hd : 0 < d) : roundDiv (k * d) d = k := by
  rw [roundDiv, Nat.mul_div_cancel k hd, Nat.mul_mod_left]
  exact if_pos (by omega)

theorem roundDiv_le (n d : Nat) : roundDiv n d ≤ n / d + 1 := by
  rw [roundDiv]
  grind

theorem le_roundDiv (n d : Nat) : n / d ≤ roundDiv n d := by
  rw [roundDiv]
  grind

theorem roundDiv_mono {m n d : Nat} (h : m ≤ n) : roundDiv m d ≤ roundDiv n d := by
  have hq : m / d ≤ n / d := Nat.div_le_div_right h
  rcases Nat.lt_or_eq_of_le hq with hlt | heq
  · exact (roundDiv_le m d).trans (hlt.trans_le (le_roundDiv n d))
  · -- between the same neighbours the larger number has the larger remainder
    have hr : m % d ≤ n % d := by
      have hm := Nat.div_add_mod' m d
      have hn := Nat.div_add_mod' n d
      rw [heq] at hm
      omega
    rw [roundDiv, roundDiv, heq]
    grind

/-- The distance of the numbers with 53 binary digits that have as many digits as `n`. -/
def unitOf (n : Nat) : Nat := 2 ^ (n.log2 - 52)

theorem unitOf_pos (n : Nat) : 0 < unitOf n := Nat.two_pow_pos _

theorem roundSteps_eq (n : Nat) : roundSteps n = roundDiv n (unitOf n) * unitOf n := rfl

/-- A power of two with at least as many digits as the unit is a multiple of the unit. -/
theorem roundDiv_two_pow (n : Nat) {k : Nat} (h : n.log2 - 52 ≤ k) :
    roundDiv (2 ^ k) (unitOf n) * unitOf n = 2 ^ k := by
  have hk : 2 ^ k = 2 ^ (k - (n.log2 - 52)) * unitOf n := by
    rw [unitOf, ← Nat.pow_add]
    congr 1
    omega
  rw [hk, roundDiv_mul_right _ (unitOf_pos n)]

theorem roundSteps_le_two_pow (n : Nat) : roundSteps n ≤ 2 ^ (n.log2 + 1) := by
  rw [roundSteps_eq, ← roundDiv_two_pow n (Nat.le_succ_of_le (Nat.sub_le n.log2 52))]
  exact Nat.mul_le_mul_right _ (roundDiv_mono Nat.lt_log2_self.le)

theorem two_pow_le_roundSteps {n : Nat} (hn : n ≠ 0) : 2 ^ n.log2 ≤ roundSteps n := by
  rw [roundSteps_eq, ← roundDiv_two_pow n (Nat.sub_le n.log2 52)]
  exact Nat.mul_le_mul_right _ (roundDiv_mono (Nat.log2_self_le hn))

theorem roundSteps_mono {m n : Nat} (h : m ≤ n) : roundSteps m ≤ roundSteps n := by
  by_cases hn : n = 0
  · rw [hn] at h ⊢
    rw [Nat.le_zero.mp h]
  have hlog : m.log2 ≤ n.log2 := by
    by_cases hm : m = 0
    · rw [hm, Nat.log2_zero]
      exact Nat.zero_le _
    · exact (Nat.le_log2 hn).mpr ((Nat.log2_self_le hm).trans h)
  rcases Nat.lt_or_eq_of_le hlog with hlt | heq
  · -- a power of two lies between numbers with different counts of digits
    calc roundSteps m ≤ 2 ^ (m.log2 + 1) := roundSteps_le_two_pow m
      _ ≤ 2 ^ n.log2 := Nat.pow_le_pow_right (by decide) hlt
      _ ≤ roundSteps n := two_pow_le_roundSteps hn
  · have hunit : unitOf m = unitOf n := by rw [unitOf, unitOf, heq]
    rw [roundSteps_eq, roundSteps_eq, hunit]
    exact Nat.mul_le_mul_right _ (roundDiv_mono h)

theorem roundSteps_of_unit_eq_one {n : Nat} (h : unitOf n = 1) : roundSteps n = n := by
  have hround := roundDiv_mul_right n Nat.one_pos
  rw [Nat.mul_one] at hround
  rw [roundSteps_eq, h, hround, Nat.mul_one]

theorem unitOf_le {n : Nat} (h : unitOf n ≠ 1) : 2 ^ 52 * unitOf n ≤ n := by
  have hlog : 52 < n.log2 := by
    by_contra hle
    exact h (by rw [unitOf, Nat.sub_eq_zero_of_le (Nat.not_lt.mp hle), Nat.pow_zero])
  have hn : n ≠ 0 := by
    rintro rfl
    rw [Nat.log2_zero] at hlog
    omega
  calc 2 ^ 52 * unitOf n = 2 ^ n.log2 := by
        rw [unitOf, ← Nat.pow_add]
        congr 1
        omega
    _ ≤ n := Nat.log2_self_le hn

theorem roundSteps_near (n : Nat) :
    2 ^ 53 * roundSteps n ≤ 2 ^ 53 * n + n ∧ 2 ^ 53 * n ≤ 2 ^ 53 * roundSteps n + n := by
  by_cases hunit : unitOf n = 1
  · rw [roundSteps_of_unit_eq_one hunit]
    exact ⟨Nat.le_add_right _ _, Nat.le_add_right _ _⟩
  · have hle := unitOf_le hunit
    have hnear := roundDiv_near n (unitOf_pos n)
    rw [← roundSteps_eq] at hnear
    omega

end SitePreview.Decimal
