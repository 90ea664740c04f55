import SitePreview.Decimal.Binary
import SitePreview.Json.Number

/-! Seconds in double precision, which clocks count and after which cached values expire. A sum is
rounded to the nearest double, so a clock that is far along does not notice small steps. -/

namespace SitePreview

/-- A number of seconds in double precision, in steps of the least positive double. -/
structure Seconds where
  steps : Int
deriving DecidableEq

namespace Seconds

/-- The seconds nearest to a number of steps; from the edge on they are infinite. -/
def ofSteps (steps : Int) : Seconds :=
  let n := min (Decimal.roundSteps steps.natAbs) Decimal.stepsOfEdge
  ⟨if steps < 0 then -n else n⟩

def ofInt (n : Int) : Seconds := ofSteps (n * Decimal.stepsOfOne)

/-- The seconds that a value stands for, if it is a number. -/
def ofJson? (v : Json) : Option Seconds := v.steps?.map ofSteps

def isInfinite (s : Seconds) : Bool := s.steps.natAbs = Decimal.stepsOfEdge

/-- The sum, rounded. What is infinite stays so. -/
def add (s t : Seconds) : Seconds :=
  if s.isInfinite then s else if t.isInfinite then t else ofSteps (s.steps + t.steps)

instance : Add Seconds := ⟨add⟩

instance : LT Seconds := ⟨fun s t => s.steps < t.steps⟩

instance (s t : Seconds) : Decidable (s < t) := inferInstanceAs (Decidable (s.steps < t.steps))

instance : LE Seconds := ⟨fun s t => s.steps ≤ t.steps⟩

instance (s t : Seconds) : Decidable (s ≤ t) := inferInstanceAs (Decidable (s.steps ≤ t.steps))

theorem not_lt {s t : Seconds} : ¬ s < t ↔ t ≤ s := Int.not_lt

theorem le_refl (s : Seconds) : s ≤ s := Int.le_refl _

theorem le_trans {s t u : Seconds} (h : s ≤ t) (h' : t ≤ u) : s ≤ u := Int.le_trans h h'

theorem le_of_lt {s t : Seconds} (h : s < t) : s ≤ t := Int.le_of_lt h

theorem lt_of_le_of_lt {s t u : Seconds} (h : s ≤ t) (h' : t < u) : s < u :=
  Int.lt_of_le_of_lt h h'

end Seconds

end SitePreview
