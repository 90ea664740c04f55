import SitePreview.Basic

/-! Binary floating point numbers read as exact numbers: a finite double is an integer times a power
of two, and rounding a quotient of naturals to an integer takes the nearer one, a half going to the
even neighbour. -/

namespace SitePreview.Decimal

/-- A finite number `m * 2 ^ e`, up to its sign. -/
structure Binary where
  negative : Bool
  mantissa : Nat
  exponent : Int
deriving DecidableEq

/-- What a double stands for. -/
inductive Value
  | finite (b : Binary)
  | infinite (negative : Bool)
  | notANumber
deriving DecidableEq

/-- The value of the 64 bits of a double: sign, 11 bits of exponent, 52 bits of fraction. -/
def Value.ofBits (bits : Nat) : Value :=
  let negative := decide (2 ^ 63 ≤ bits)
  let exponent : Nat := bits / 2 ^ 52 % 2 ^ 11
  let fraction : Nat := bits % 2 ^ 52
  if exponent = 2047 then if fraction = 0 then .infinite negative else .notANumber
  else if exponent = 0 then .finite ⟨negative, fraction, -1074⟩
  else .finite ⟨negative, 2 ^ 52 + fraction, (exponent : Int) - 1075⟩

def Value.ofFloat (x : Float) : Value := .ofBits x.toBits.toNat

/-- The integer nearest to `num / den`, the even one of two equally near. -/
def roundDiv (num den : Nat) : Nat :=
  let q := num / den
  let r := num % den
  if 2 * r < den then q else if den < 2 * r then q + 1 else if q % 2 = 0 then q else q + 1

/-- The binary number times `10 ^ places`, as a fraction. -/
def Binary.scaled (b : Binary) (places : Nat) : Nat × Nat :=
  if 0 ≤ b.exponent then (b.mantissa * 2 ^ b.exponent.toNat * 10 ^ places, 1)
  else (b.mantissa * 10 ^ places, 2 ^ b.exponent.natAbs)

/-- The integer nearest to a finite value, the even one of two equally near. -/
def Value.nearest? : Value → Option Int
  | .finite b =>
    let (num, den) := b.scaled 0
    let n : Int := roundDiv num den
    some (if b.negative then -n else n)
  | _ => none

/-! ### Doubles as integers

Every finite double is a multiple of the least positive one, so doubles and integers compare as
integers do, and their sums are sums of integers. Such a sum is then rounded to a multiple that a
double can hold. -/

/-- The number of steps of the least positive double from 0 to 1. -/
def stepsOfOne : Nat := 2 ^ 1074

/-- The number of steps at which numbers are too large for a double. -/
def stepsOfEdge : Nat := 2 ^ 1024 * stepsOfOne

/-- A finite binary number in steps. -/
def Binary.steps (b : Binary) : Int :=
  let n : Nat := b.mantissa * 2 ^ (b.exponent + 1074).toNat
  if b.negative then -n else n

/-- A double in steps, unless it is no number. What is infinite lies at the edge. -/
def Value.steps? : Value → Option Int
  | .finite b => some b.steps
  | .infinite negative => some (if negative then -stepsOfEdge else stepsOfEdge)
  | .notANumber => none

/-- The number of steps with 53 binary digits at most that is nearest to the given one, of two
equally near the even one. -/
def roundSteps (n : Nat) : Nat :=
  let unit := 2 ^ (n.log2 - 52)
  roundDiv n unit * unit

example : roundSteps (2 ^ 53 + 1) = 2 ^ 53 ∧ roundSteps (2 ^ 53 + 3) = 2 ^ 53 + 4 := by
  decide +kernel

/-- The fraction times a power of two, as a fraction. -/
def timesPower (num den : Nat) (power : Int) : Nat × Nat :=
  if 0 ≤ power then (num * 2 ^ power.toNat, den) else (num, den * 2 ^ power.natAbs)

/-- The double nearest to a positive fraction that is neither tiny nor too large. -/
def nearestDouble (num den : Nat) : Float :=
  -- with this power of two the quotient has 53 or 54 binary digits
  let power : Int := 53 + den.log2 - num.log2
  let (n, d) := timesPower num den power
  let power := if n / d < 2 ^ 53 then power else power - 1
  let (n, d) := timesPower num den power
  -- a mantissa of 54 digits carries into the exponent, and no exponent is above that of infinity
  let bits := (1075 - power).toNat * 2 ^ 52 + (roundDiv n d - 2 ^ 52)
  .ofBits (.ofNat (min bits (2047 * 2 ^ 52)))

/-- The quotient of an integer and a positive number as a double, unless it is too large for one. -/
def quotient? (n : Int) (den : Nat) : Option Float :=
  let x := if n = 0 then 0 else nearestDouble n.natAbs den
  if x.isInf then none else some (if n < 0 then -x else x)

end SitePreview.Decimal
