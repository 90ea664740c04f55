import SitePreview.Decimal.Binary
import SitePreview.Json.Basic

/-! Numbers among JSON values. Integers, doubles and booleans compare by their exact value, where
true counts as one and false as zero. -/

namespace SitePreview.Json

/-- The integer that a value is, where booleans count as integers. -/
def wholeNumber? : Json → Option Int
  | int i => some i
  | bool b => some (if b then 1 else 0)
  | _ => none

/-- A number in steps of the least positive double. -/
def steps? : Json → Option Int
  | float x => (Decimal.Value.ofFloat x).steps?
  | v => v.wholeNumber?.map fun i => i * Decimal.stepsOfOne

/-- The least integer that is not less than a number. -/
def ceiling? (v : Json) : Option Int := v.steps?.map fun n => -(-n).fdiv Decimal.stepsOfOne

/-- The whole part of a number. -/
def truncated? (v : Json) : Option Int := v.steps?.map fun n => n.tdiv Decimal.stepsOfOne

/-- The value counts as nothing: null, false, zero, or without a part. -/
def isNothing : Json → Bool
  | null => true
  | bool b => !b
  | int i => i = 0
  | float x => x == 0
  | string t => t = []
  | array vs => vs.isEmpty
  | object ms => ms.isEmpty

end SitePreview.Json
