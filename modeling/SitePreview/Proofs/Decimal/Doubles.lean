import Mathlib
import SitePreview.Proofs.Decimal.Rounding

/-! Doubles as numbers. A double of 53 binary digits keeps them when it is packed, and a product
that is rounded to so many digits exceeds the exact one by no more than its `2 ^ 52`nd part. The
nearest double to a quotient that is not too large is one of these. -/

namespace SitePreview.Decimal

open Float.Model Float.Model.UnpackedFloat

/-- The digits times a power of two. -/
def valueOf (m : Nat) (e : Int) : ℚ := m * 2 ^ e

/-- The double is positive and has 53 binary digits. -/
structure IsNormal (x : Float) (m : Nat) (e : Int) : Prop where
  unpack_eq : ∃ h, x.toModel.unpack = .finite .positive m e h
  digits : 2 ^ 52 ≤ m ∧ m < 2 ^ 53
  range : -1074 ≤ e ∧ e ≤ 971

section Rounding

theorem mantissa_shiftRight (em : ExtendedMantissa) (k : Nat) :
    (em >>> k).mantissa = em.mantissa / 2 ^ k := by
  induction k with
  | zero => exact (Nat.div_one _).symm
  | succ k ih =>
    show (em >>> k).mantissa / 2 = _
    rw [ih, Nat.div_div_eq_div_mul, Nat.pow_succ]

theorem roundedMantissa_le (em : ExtendedMantissa) :
    em.mantissa ≤ em.roundedMantissa ∧ em.roundedMantissa ≤ em.mantissa + 1 := by
  obtain ⟨m, round, sticky⟩ := em
  have hodd := Nat.mod_lt m Nat.two_pos
  cases round <;> cases sticky <;>
    simp only [ExtendedMantissa.roundedMantissa, ExtendedMantissa.accuracy,
      Accuracy.roundToNearestEven] <;> omega

/-- From 53 binary digits on a number is shifted to exactly so many. -/
theorem shiftToTargetExponent_eq {m : Nat} {e : Int} (hm : 2 ^ 52 ≤ m) (he : -1074 ≤ e) :
    shiftToTargetExponent .binary64 m e .exact =
      (ExtendedMantissa.mk m false false >>> (m.log2 - 52), e + (m.log2 - 52 : Nat)) := by
  have hlog : 52 ≤ m.log2 := (Nat.le_log2 (by omega)).mpr hm
  have htarget : (Format.binary64.targetExponent (totalExponent m e) - e).toNat = m.log2 - 52 := by
    simp only [Format.targetExponent, totalExponent, Format.mantissaBits, Format.minExponent]
    omega
  simp only [shiftToTargetExponent, shiftToExponent, htarget,
    ExtendedMantissa.ofMantissaAndAccuracy]

theorem valueOf_add (m : Nat) (e : Int) (k : Nat) : valueOf m (e + k) = valueOf (m * 2 ^ k) e := by
  rw [valueOf, valueOf, zpow_add₀ (by norm_num), zpow_natCast]
  push_cast
  ring

/-- A number with so many digits as a shift leaves, rounded up, is little more than it was. -/
theorem valueOf_rounded_le {m r : Nat} {e : Int} (hm : 2 ^ 52 ≤ m)
    (hr : r ≤ m / 2 ^ (m.log2 - 52) + 1) :
    valueOf r (e + (m.log2 - 52 : Nat)) ≤ valueOf m e * (1 + 1 / 2 ^ 52) := by
  have hlog : 52 ≤ m.log2 := (Nat.le_log2 (by omega)).mpr hm
  have hpow : 2 ^ 52 * 2 ^ (m.log2 - 52) ≤ m := by
    rw [← Nat.pow_add, Nat.add_sub_cancel' hlog]
    exact Nat.log2_self_le (by omega)
  have hdiv : m / 2 ^ (m.log2 - 52) * 2 ^ (m.log2 - 52) ≤ m := Nat.div_mul_le_self _ _
  have hround : r * 2 ^ (m.log2 - 52) ≤ m + 2 ^ (m.log2 - 52) := by
    calc r * 2 ^ (m.log2 - 52)
        ≤ (m / 2 ^ (m.log2 - 52) + 1) * 2 ^ (m.log2 - 52) := Nat.mul_le_mul_right _ hr
      _ ≤ m + 2 ^ (m.log2 - 52) := by
        rw [Nat.add_mul, Nat.one_mul]
        exact Nat.add_le_add_right hdiv _
  have hscaled : 2 ^ 52 * (r * 2 ^ (m.log2 - 52)) ≤ (2 ^ 52 + 1) * m := by omega
  have hcast : (2 ^ 52 : ℚ) * ((r * 2 ^ (m.log2 - 52) : Nat) : ℚ) ≤ (2 ^ 52 + 1) * m := by
    exact_mod_cast hscaled
  have hle : ((r * 2 ^ (m.log2 - 52) : Nat) : ℚ) ≤ m * (1 + 1 / 2 ^ 52) := by linarith
  rw [valueOf_add, valueOf, valueOf, mul_right_comm]
  exact mul_le_mul_of_nonneg_right hle (by positivity)

/-- A number of at least 53 binary digits is rounded to exactly so many. -/
theorem roundWithAccuracy_exact {m : Nat} {e : Int} (hm : 2 ^ 52 ≤ m) (he : -1074 ≤ e) (s : Sign) :
    ∃ m' e' h, roundWithAccuracy .binary64 s m e .exact = .finite s m' e' h ∧
      (2 ^ 52 ≤ m' ∧ m' < 2 ^ 53) ∧ (e + m.log2 ≤ e' + 52 ∧ e' + 52 ≤ e + m.log2 + 1) ∧
      valueOf m' e' ≤ valueOf m e * (1 + 1 / 2 ^ 52) := by
  have hlog : 52 ≤ m.log2 := (Nat.le_log2 (by omega)).mpr hm
  have hpow : 2 ^ m.log2 = 2 ^ 52 * 2 ^ (m.log2 - 52) := by
    rw [← Nat.pow_add, Nat.add_sub_cancel' hlog]
  have hlow : 2 ^ 52 ≤ m / 2 ^ (m.log2 - 52) := by
    rw [Nat.le_div_iff_mul_le (Nat.two_pow_pos _), ← hpow]
    exact Nat.log2_self_le (by omega)
  have hhigh : m / 2 ^ (m.log2 - 52) < 2 ^ 53 := by
    rw [Nat.div_lt_iff_lt_mul (Nat.two_pow_pos _)]
    have := Nat.lt_log2_self (n := m)
    omega
  obtain ⟨hr, hr'⟩ := roundedMantissa_le (ExtendedMantissa.mk m false false >>> (m.log2 - 52))
  rw [mantissa_shiftRight] at hr hr'
  generalize hround : (ExtendedMantissa.mk m false false >>> (m.log2 - 52)).roundedMantissa = r
    at hr hr'
  change m / 2 ^ (m.log2 - 52) ≤ r at hr
  change r ≤ m / 2 ^ (m.log2 - 52) + 1 at hr'
  have hvalue := valueOf_rounded_le (e := e) hm hr'
  have hr52 : 2 ^ 52 ≤ r := hlow.trans hr
  -- rounding up may carry into one more digit, which goes again
  obtain ⟨carry, m', hlogr, rfl, hcarry, hdigits⟩ : ∃ carry m', r.log2 - 52 = carry ∧
      r = m' * 2 ^ carry ∧ carry ≤ 1 ∧ 2 ^ 52 ≤ m' ∧ m' < 2 ^ 53 := by
    by_cases hsmall : r < 2 ^ 53
    · have hlogr : r.log2 < 53 := (Nat.log2_lt (by omega)).mpr hsmall
      exact ⟨0, r, by omega, by rw [Nat.pow_zero, Nat.mul_one], by omega, hr52, hsmall⟩
    · obtain rfl : r = 2 ^ 53 := by omega
      exact ⟨1, 2 ^ 52, by rw [Nat.log2_two_pow], by norm_num, by omega, by omega, by norm_num⟩
  refine ⟨m', e + (m.log2 - 52 : Nat) + carry, by omega, ?_, hdigits, by omega, ?_⟩
  · have hmantissa :
        (ExtendedMantissa.mk (m' * 2 ^ carry) false false >>> carry).mantissa = m' := by
      rw [mantissa_shiftRight, Nat.mul_div_cancel _ (Nat.two_pow_pos _)]
    rw [roundWithAccuracy, shiftToTargetExponent_eq hm he]
    dsimp only
    rw [hround, shiftToTargetExponent_eq hr52 (by omega), hlogr]
    dsimp only
    simp only [hmantissa]
    rw [dif_neg (by omega)]
  · rw [valueOf_add]
    exact hvalue

end Rounding

section Packing

/-- The first of 53 binary digits, which is one, is not packed. -/
theorem toNat_append_one (v : BitVec 52) : (1#1 ++ v).toNat = 2 ^ 52 + v.toNat := by
  rw [BitVec.toNat_append]
  exact (Nat.shiftLeft_add_eq_or_of_lt v.isLt 1).symm

theorem toNat_append_ofNat {m : Nat} (hm : 2 ^ 52 ≤ m ∧ m < 2 ^ 53) :
    (1#1 ++ BitVec.ofNat 52 m).toNat = m := by
  rw [toNat_append_one, BitVec.toNat_ofNat]
  omega

/-- An exponent that is neither of the two special ones stands for 53 binary digits. -/
theorem unpack_packComponents {b m : Nat} (h : 0 < m) (hb : 1 ≤ b ∧ b < 2047)
    (hm : 2 ^ 52 ≤ m ∧ m < 2 ^ 53) (s : Sign) :
    UnpackedFloat.unpack .binary64
      (packComponents .binary64 s (BitVec.ofNat 11 b) (BitVec.ofNat 52 m)) =
        .finite s m (b - 1075) h := by
  have hexponent : (BitVec.ofNat 11 b).toNat = b := by
    rw [BitVec.toNat_ofNat, Nat.mod_eq_of_lt (by omega)]
  have hfinite : BitVec.ofNat 11 b ≠ -1#11 := by
    intro heq
    have hmost : b = 2047 := hexponent.symm.trans (congrArg BitVec.toNat heq)
    omega
  have hnormal : BitVec.ofNat 11 b ≠ 0#11 := by
    intro heq
    have hleast : b = 0 := hexponent.symm.trans (congrArg BitVec.toNat heq)
    omega
  rw [UnpackedFloat.unpack]
  simp only [unpackMantissa_packComponents, unpackExponent_packComponents,
    unpackSign_packComponents, Sign.ofBitVec_toBitVec, if_neg hfinite, if_neg hnormal, hexponent,
    toNat_append_ofNat hm]
  rfl

/-- What has 53 binary digits is the same once it is packed. -/
theorem unpack_pack {m : Nat} {e : Int} (h : 0 < m) (hm : 2 ^ 52 ≤ m ∧ m < 2 ^ 53)
    (he : -1074 ≤ e ∧ e ≤ 971) (s : Sign) :
    (Float.Model.pack (.finite s m e h)).unpack = .finite s m e h := by
  have hlog : m.log2 = 52 := by
    have hlow : 52 ≤ m.log2 := (Nat.le_log2 (by omega)).mpr hm.1
    have hhigh : m.log2 < 53 := (Nat.log2_lt (by omega)).mpr hm.2
    omega
  obtain ⟨b, rfl⟩ : ∃ b : Nat, e = (b : Int) - 1075 := ⟨(e + 1075).toNat, by omega⟩
  have hbiased : ((b : Int) - 1075 + Format.binary64.exponentBias +
      Format.binary64.mantissaBitsWithoutImplicit).toNat = b := by
    simp only [Format.exponentBias]
    omega
  have hpacked : UnpackedFloat.pack .binary64 (.finite s m (b - 1075) h) =
      packComponents .binary64 s (BitVec.ofNat 11 b) (BitVec.ofNat 52 m) := by
    rw [UnpackedFloat.pack]
    dsimp only
    rw [hbiased, if_neg (by omega), if_pos (by rw [hlog]; rfl)]
  show UnpackedFloat.unpack .binary64 (UnpackedFloat.pack .binary64 _) = _
  rw [hpacked]
  exact unpack_packComponents h (by omega) hm s

/-- The bits of a double without a sign are its exponent and what follows its first digit. -/
theorem ofNat_eq_packComponents {bits : Nat} (hbits : bits < 2 ^ 63) :
    BitVec.ofNat 64 bits = packComponents .binary64 .positive (BitVec.ofNat 11 (bits / 2 ^ 52))
      (BitVec.ofNat 52 (2 ^ 52 + bits % 2 ^ 52)) := by
  refine BitVec.eq_of_toNat_eq ?_
  have hhigh : bits / 2 ^ 52 < 2 ^ 11 := Nat.div_lt_of_lt_mul (by omega)
  have hlow : bits % 2 ^ 52 < 2 ^ 52 := Nat.mod_lt _ (by norm_num)
  have hmantissa : (BitVec.ofNat 52 (2 ^ 52 + bits % 2 ^ 52)).toNat = bits % 2 ^ 52 := by
    rw [BitVec.toNat_ofNat, Nat.add_mod_left, Nat.mod_mod]
  have hexponent : (Sign.positive.toBitVec ++ BitVec.ofNat 11 (bits / 2 ^ 52)).toNat =
      bits / 2 ^ 52 := by
    rw [BitVec.toNat_append, BitVec.toNat_ofNat, Nat.mod_eq_of_lt hhigh]
    exact (Nat.shiftLeft_add_eq_or_of_lt hhigh 0).symm.trans (by omega)
  rw [packComponents, BitVec.toNat_append, hexponent, hmantissa, BitVec.toNat_ofNat,
    ← Nat.shiftLeft_add_eq_or_of_lt hlow, Nat.shiftLeft_eq]
  omega

end Packing

section Operations

variable {x y : Float} {m n : Nat} {d e : Int}

/-- What is rounded to 53 binary digits is a double of so many, unless it is too large for one. -/
theorem IsNormal.of_pack {u : UnpackedFloat} (hm : 2 ^ 52 ≤ m) (he : -1074 ≤ e)
    (hbound : e + m.log2 ≤ 1022) (hu : u = roundWithAccuracy .binary64 .positive m e .exact) :
    ∃ m' e', IsNormal (.ofModel (.pack u)) m' e' ∧
      (e + m.log2 ≤ e' + 52 ∧ e' + 52 ≤ e + m.log2 + 1) ∧
      valueOf m' e' ≤ valueOf m e * (1 + 1 / 2 ^ 52) := by
  have hlog : 52 ≤ m.log2 := (Nat.le_log2 (by omega)).mpr hm
  obtain ⟨m', e', h, hround, hdigits, hexponent, hvalue⟩ := roundWithAccuracy_exact hm he .positive
  have hrange : -1074 ≤ e' ∧ e' ≤ 971 := by omega
  refine ⟨m', e', ⟨⟨h, ?_⟩, hdigits, hrange⟩, hexponent, hvalue⟩
  rw [hu, hround]
  exact unpack_pack h hdigits hrange .positive

theorem valueOf_mul (m n : Nat) (d e : Int) :
    valueOf (m * n) (d + e) = valueOf m d * valueOf n e := by
  rw [valueOf, valueOf, valueOf, zpow_add₀ (by norm_num)]
  push_cast
  ring

theorem valueOf_nonneg (m : Nat) (e : Int) : 0 ≤ valueOf m e := by
  rw [valueOf]
  positivity

theorem log2_mul_of_digits (hm : 2 ^ 52 ≤ m ∧ m < 2 ^ 53) (hn : 2 ^ 52 ≤ n ∧ n < 2 ^ 53) :
    104 ≤ (m * n).log2 ∧ (m * n).log2 ≤ 105 := by
  have hlow : 2 ^ 52 * 2 ^ 52 ≤ m * n := Nat.mul_le_mul hm.1 hn.1
  have hhigh : m * n < 2 ^ 53 * 2 ^ 53 := Nat.mul_lt_mul_of_lt_of_lt hm.2 hn.2
  have hne : m * n ≠ 0 := by omega
  have hlt : (m * n).log2 < 106 := (Nat.log2_lt hne).mpr hhigh
  exact ⟨(Nat.le_log2 hne).mpr hlow, by omega⟩

/-- A product of doubles exceeds the exact one by little. -/
theorem IsNormal.mul (hx : IsNormal x m d) (hy : IsNormal y n e) (hleast : -1074 ≤ d + e)
    (hgreatest : d + e ≤ 900) :
    ∃ m' e', IsNormal (x * y) m' e' ∧ (d + e + 52 ≤ e' ∧ e' ≤ d + e + 54) ∧
      valueOf m' e' ≤ valueOf m d * valueOf n e * (1 + 1 / 2 ^ 52) := by
  obtain ⟨hm, hxm⟩ := hx.unpack_eq
  obtain ⟨hn, hyn⟩ := hy.unpack_eq
  have hlog := log2_mul_of_digits hx.digits hy.digits
  have hdigits : 2 ^ 52 ≤ m * n :=
    Nat.le_trans (by norm_num) (Nat.mul_le_mul hx.digits.1 hy.digits.1)
  have hproduct : UnpackedFloat.mul .binary64 x.toModel.unpack y.toModel.unpack =
      roundWithAccuracy .binary64 .positive (m * n) (d + e) .exact := by
    rw [hxm, hyn]
    rfl
  obtain ⟨m', e', hnormal, hexponent, hvalue⟩ :=
    IsNormal.of_pack hdigits hleast (by omega) hproduct
  rw [valueOf_mul] at hvalue
  exact ⟨m', e', hnormal, by omega, hvalue⟩

theorem isNormal_one : IsNormal 1.0 (2 ^ 52) (-52) :=
  ⟨⟨by decide, rfl⟩, by decide, by decide⟩

theorem log2_mul_two_pow (hn : n ≠ 0) (k : Nat) : (n * 2 ^ k).log2 = n.log2 + k := by
  have hlow : 2 ^ (n.log2 + k) ≤ n * 2 ^ k := by
    rw [Nat.pow_add]
    exact Nat.mul_le_mul_right _ (Nat.log2_self_le hn)
  have hhigh : n * 2 ^ k < 2 ^ (n.log2 + k + 1) := by
    rw [Nat.add_right_comm, Nat.pow_add]
    exact Nat.mul_lt_mul_of_pos_right Nat.lt_log2_self (Nat.two_pow_pos k)
  have hne : n * 2 ^ k ≠ 0 := Nat.mul_ne_zero hn (Nat.two_pow_pos k).ne'
  exact Nat.le_antisymm (Nat.le_of_lt_succ ((Nat.log2_lt hne).mpr hhigh))
    ((Nat.le_log2 hne).mpr hlow)

/-- A natural number that is shifted to 53 binary digits or more becomes a double close to it. -/
theorem IsNormal.of_shifted {u : UnpackedFloat} {k : Nat} (hpos : 0 < n) (hn : n < 2 ^ 64)
    (hk : 52 ≤ n.log2 + k) (hk' : k ≤ 53)
    (hu : u = roundWithAccuracy .binary64 .positive (n * 2 ^ k) (-k) .exact) :
    ∃ m e, IsNormal (.ofModel (.pack u)) m e ∧ (-52 ≤ e ∧ e ≤ 12) ∧
      valueOf m e ≤ n * (1 + 1 / 2 ^ 52) := by
  have hlog : n.log2 < 64 := (Nat.log2_lt hpos.ne').mpr hn
  have hlogk := log2_mul_two_pow hpos.ne' k
  have hdigits : 2 ^ 52 ≤ n * 2 ^ k :=
    (Nat.le_log2 (Nat.mul_pos hpos (Nat.two_pow_pos k)).ne').mp (by omega)
  obtain ⟨m, e, hnormal, hexponent, hvalue⟩ := IsNormal.of_pack hdigits (by omega) (by omega) hu
  have hexact : valueOf (n * 2 ^ k) (-k) = n := by
    rw [← valueOf_add, neg_add_cancel, valueOf, zpow_zero, mul_one]
  exact ⟨m, e, hnormal, by omega, hexact ▸ hvalue⟩

/-- A natural number below `2 ^ 64` becomes a double close to it. -/
theorem isNormal_toFloat_toUInt64 (hpos : 0 < n) (hn : n < 2 ^ 64) :
    ∃ m e, IsNormal n.toUInt64.toFloat m e ∧ (-52 ≤ e ∧ e ≤ 12) ∧
      valueOf m e ≤ n * (1 + 1 / 2 ^ 52) := by
  have htoNat : n.toUInt64.toNat = n := Nat.mod_eq_of_lt hn
  have htarget : Format.binary64.targetExponent (totalExponent n 0) = n.log2 - 52 := by
    simp only [Format.targetExponent, totalExponent, Format.mantissaBits, Format.minExponent]
    omega
  have hshift : (-((n.log2 : Int) - 52)).toNat = 52 - n.log2 := by omega
  refine IsNormal.of_shifted (k := 52 - n.log2) hpos hn (by omega) (by omega) ?_
  calc UnpackedFloat.normalize .binary64 (n.toUInt64.toNat : Int) 0 .positive
      = UnpackedFloat.round .binary64 .positive n 0 := by
        rw [htoNat, UnpackedFloat.normalize, Int.compare_eq_gt.mpr (by omega)]
        rfl
    _ = _ := by
        simp only [UnpackedFloat.round, decreaseExponent, htarget, hshift, Nat.shiftLeft_eq,
          Int.zero_sub]

theorem ofScientific_zero (hpos : 0 < n) : UnpackedFloat.ofScientific .binary64 n 0 =
    roundWithAccuracy .binary64 .positive (n * 2 ^ 53) (-53) .exact := by
  have hbits : (2 : Int) ^ Format.binary64.exponentBits = 2048 := rfl
  rw [UnpackedFloat.ofScientific, dif_neg hpos.ne', if_neg (by omega), if_neg (by omega),
    if_pos (Int.le_refl 0), ← Nat.shiftLeft_eq, ← Nat.mul_one (n <<< 53)]
  rfl

/-- A natural number as a double exceeds the number by little. -/
theorem isNormal_toFloat (hpos : 0 < n) (hn : n < 2 ^ 64) :
    ∃ m e, IsNormal n.toFloat m e ∧ (-52 ≤ e ∧ e ≤ 14) ∧
      valueOf m e ≤ n * (1 + 1 / 2 ^ 52) ^ 2 := by
  show ∃ m e, IsNormal (Float.ofScientific n false 0) m e ∧ _
  rw [Float.ofScientific]
  split
  · -- a number of 53 binary digits at most is multiplied by one
    obtain ⟨m, e, hnormal, hexponent, hvalue⟩ := isNormal_toFloat_toUInt64 hpos hn
    obtain ⟨m', e', hnormal', hexponent', hvalue'⟩ :=
      hnormal.mul isNormal_one (by omega) (by omega)
    refine ⟨m', e', hnormal', by omega, ?_⟩
    have hone : valueOf (2 ^ 52) (-52) = 1 := by norm_num [valueOf]
    rw [hone, mul_one] at hvalue'
    rw [pow_two, ← mul_assoc]
    exact hvalue'.trans (mul_le_mul_of_nonneg_right hvalue (by norm_num))
  · obtain ⟨m, e, hnormal, hexponent, hvalue⟩ :=
      IsNormal.of_shifted (k := 53) hpos hn (by omega) (by omega) (ofScientific_zero hpos)
    refine ⟨m, e, hnormal, by omega, hvalue.trans ?_⟩
    exact mul_le_mul_of_nonneg_left (by norm_num) n.cast_nonneg

theorem toNat_ofNatClamp_le (n : Nat) : (UInt64.ofNatClamp n).toNat ≤ n := by
  rw [UInt64.ofNatClamp]
  split
  · exact Nat.le_refl n
  · next hn =>
    show UInt64.size - 1 ≤ n
    omega

theorem roundToInt_positive (m : Nat) (e : Int) :
    roundToInt .positive m e = (m * 2 ^ e.toNat / 2 ^ (-e).toNat : Nat) := by
  have hshift : (0 - (e - (e.toNat : Int))).toNat = (-e).toNat := by omega
  simp only [roundToInt, decreaseExponent, shiftToExponent, Int.sub_zero, hshift,
    mantissa_shiftRight, Nat.shiftLeft_eq]
  rfl

/-- The whole part of a double is not greater than the double. -/
theorem toNat_toUInt64_le (hx : IsNormal x m e) : (x.toUInt64.toNat : ℚ) ≤ valueOf m e := by
  obtain ⟨hm, hxm⟩ := hx.unpack_eq
  have hwhole : x.toUInt64.toNat ≤ m * 2 ^ e.toNat / 2 ^ (-e).toNat := by
    show (UInt64.ofNatClamp (x.toModel.unpack.toInt 0 (UInt64.size - 1)).toNat).toNat ≤ _
    rw [hxm, toInt, roundToInt_positive]
    exact toNat_ofNatClamp_le _
  calc (x.toUInt64.toNat : ℚ) ≤ (m * 2 ^ e.toNat / 2 ^ (-e).toNat : Nat) := Nat.cast_le.mpr hwhole
    _ ≤ ((m * 2 ^ e.toNat : Nat) : ℚ) / (2 ^ (-e).toNat : Nat) := Nat.cast_div_le
    _ = valueOf m e := by
      have he : e = (e.toNat : Int) - ((-e).toNat : Int) := by omega
      rw [valueOf, he, zpow_sub₀ (by norm_num), zpow_natCast, zpow_natCast, ← mul_div_assoc, ← he]
      push_cast
      rfl

end Operations

section Quotients

/-- The bits between those of the special doubles stand for 53 binary digits. -/
theorem isNormal_ofBits {bits : Nat} (hlow : 2 ^ 52 ≤ bits) (hhigh : bits < 2047 * 2 ^ 52) :
    IsNormal (.ofBits (.ofNat bits)) (2 ^ 52 + bits % 2 ^ 52) ((bits / 2 ^ 52 : Nat) - 1075) := by
  have hexponent : 1 ≤ bits / 2 ^ 52 ∧ bits / 2 ^ 52 < 2047 :=
    ⟨(Nat.one_le_div_iff (by norm_num)).mpr hlow, Nat.div_lt_of_lt_mul (by omega)⟩
  have hfraction : bits % 2 ^ 52 < 2 ^ 52 := Nat.mod_lt _ (by norm_num)
  have hdigits : 2 ^ 52 ≤ 2 ^ 52 + bits % 2 ^ 52 ∧ 2 ^ 52 + bits % 2 ^ 52 < 2 ^ 53 := by omega
  have hrange : -1074 ≤ ((bits / 2 ^ 52 : Nat) : Int) - 1075 ∧
      ((bits / 2 ^ 52 : Nat) : Int) - 1075 ≤ 971 := by omega
  refine ⟨⟨by omega, ?_⟩, hdigits, hrange⟩
  rw [← unpack_pack (by omega) hdigits hrange .positive,
    ← unpack_packComponents (by omega) hexponent hdigits .positive,
    ← ofNat_eq_packComponents (by omega)]
  rfl

/-- The power of two between a number's digits and those it should have leaves no more of them. -/
theorem timesPower_lt {num den : Nat} {power : Int} (hden : den ≠ 0)
    (hpower : power + num.log2 ≤ 52 + den.log2) :
    (timesPower num den power).1 / (timesPower num den power).2 < 2 ^ 53 := by
  have hnum : num < 2 ^ (num.log2 + 1) := Nat.lt_log2_self
  have hlog : 2 ^ den.log2 ≤ den := Nat.log2_self_le hden
  rw [timesPower]
  split
  · next hnonneg =>
    refine Nat.div_lt_of_lt_mul ?_
    calc num * 2 ^ power.toNat < 2 ^ (num.log2 + 1) * 2 ^ power.toNat :=
          Nat.mul_lt_mul_of_pos_right hnum (Nat.two_pow_pos _)
      _ = 2 ^ (num.log2 + 1 + power.toNat) := (Nat.pow_add ..).symm
      _ ≤ 2 ^ (den.log2 + 53) := Nat.pow_le_pow_right Nat.two_pos (by omega)
      _ = 2 ^ den.log2 * 2 ^ 53 := Nat.pow_add ..
      _ ≤ den * 2 ^ 53 := Nat.mul_le_mul_right _ hlog
  · next hneg =>
    refine Nat.div_lt_of_lt_mul ?_
    calc num < 2 ^ (num.log2 + 1) := hnum
      _ ≤ 2 ^ (den.log2 + power.natAbs + 53) := Nat.pow_le_pow_right Nat.two_pos (by omega)
      _ = 2 ^ den.log2 * 2 ^ power.natAbs * 2 ^ 53 := by rw [Nat.pow_add, Nat.pow_add]
      _ ≤ den * 2 ^ power.natAbs * 2 ^ 53 := Nat.mul_le_mul_right _ (Nat.mul_le_mul_right _ hlog)

theorem timesPower_lt_of_neg {num den : Nat} {power : Int} (hden : 0 < den) (hpower : power < 0)
    (h : num / den < 2 ^ (power.natAbs + 53)) :
    (timesPower num den power).1 / (timesPower num den power).2 < 2 ^ 53 := by
  rw [timesPower, if_neg (Int.not_le.mpr hpower)]
  refine Nat.div_lt_of_lt_mul (Nat.lt_of_lt_of_eq ((Nat.div_lt_iff_lt_mul hden).mp h) ?_)
  rw [Nat.pow_add]
  ring

theorem IsNormal.isInf {x : Float} {m : Nat} {e : Int} (hx : IsNormal x m e) : x.isInf = false := by
  obtain ⟨h, hunpack⟩ := hx.unpack_eq
  show x.toModel.unpack.isInf = false
  rw [hunpack]
  rfl

theorem log2_le_of_div_lt {num den k : Nat} (hden : 0 < den) (h : num / den < 2 ^ k) :
    num.log2 ≤ k + den.log2 := by
  rcases Nat.eq_zero_or_pos num with rfl | hnum
  · exact Nat.zero_le _
  · have hlog : den < 2 ^ (den.log2 + 1) := Nat.lt_log2_self
    have hpow : num < 2 ^ (k + (den.log2 + 1)) :=
      calc num < 2 ^ k * den := (Nat.div_lt_iff_lt_mul hden).mp h
        _ ≤ 2 ^ k * 2 ^ (den.log2 + 1) := Nat.mul_le_mul_left _ hlog.le
        _ = 2 ^ (k + (den.log2 + 1)) := (Nat.pow_add ..).symm
    exact Nat.le_of_lt_succ ((Nat.log2_lt hnum.ne').mpr hpow)

/-- The nearest double to a fraction below the largest power of two is finite. -/
theorem isNormal_nearestDouble {num den : Nat} (hden : 0 < den) (hdenBound : den < 2 ^ 64)
    (hbound : num / den < 2 ^ 1023) : ∃ m e, IsNormal (nearestDouble num den) m e := by
  have hlogden : den.log2 < 64 := (Nat.log2_lt hden.ne').mpr hdenBound
  have hlog := log2_le_of_div_lt hden hbound
  have hfinite : ∀ power : Int, -970 ≤ power → power ≤ 1074 →
      (timesPower num den power).1 / (timesPower num den power).2 < 2 ^ 53 →
      ∃ m e, IsNormal (.ofBits (.ofNat (min ((1075 - power).toNat * 2 ^ 52 +
        (roundDiv (timesPower num den power).1 (timesPower num den power).2 - 2 ^ 52))
        (2047 * 2 ^ 52)))) m e := by
    intro power hleast hgreatest hquotient
    have hround := roundDiv_le (timesPower num den power).1 (timesPower num den power).2
    exact ⟨_, _, isNormal_ofBits (by omega) (by omega)⟩
  rw [nearestDouble]
  dsimp only
  split
  · next hquotient =>
    exact hfinite _ (by omega) (by omega) hquotient
  · next hquotient =>
    have hless : -969 ≤ 53 + (den.log2 : Int) - num.log2 := by
      refine Int.not_lt.mp fun hlt => hquotient ?_
      have hexponent : (53 + (den.log2 : Int) - num.log2).natAbs + 53 = 1023 := by omega
      exact timesPower_lt_of_neg hden (by omega) (by rwa [hexponent])
    exact hfinite _ (by omega) (by omega) (timesPower_lt hden.ne' (by omega))

/-- A quotient below the largest power of two is finite. -/
theorem quotient?_isSome {n : Int} {den : Nat} (hden : 0 < den) (hdenBound : den < 2 ^ 64)
    (hn : n.natAbs / den < 2 ^ 1023) : ∃ x, quotient? n den = some x := by
  obtain rfl | hzero := eq_or_ne n 0
  · simp only [quotient?, if_pos]
    exact ⟨0, if_neg (by decide)⟩
  · obtain ⟨m, e, hnormal⟩ := isNormal_nearestDouble hden hdenBound hn
    simp only [quotient?, if_neg hzero, hnormal.isInf]
    exact ⟨_, rfl⟩

end Quotients

end SitePreview.Decimal
