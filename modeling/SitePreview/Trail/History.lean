import SitePreview.Json.Number
import SitePreview.Trail.VersionRecord

/-! Pages of history, the most recent version first, and how long they may be. -/

namespace SitePreview

/-- A page of version records. It is unavailable if they could not be read. -/
structure History where
  versions : List VersionRecord
  available : Bool
deriving DecidableEq

/-- The page without records of a trail that cannot be read. -/
def History.unavailable : History := ⟨[], false⟩

/-- How long a page is if no length is asked for, and how long it may be. -/
structure HistoryLimits where
  ofDefault : Int := 20
  ofMaximum : Int := 50
deriving DecidableEq

/-- The length that is asked of a page. A double counts as the least integer that is not less than
it, and serves only where a bound takes its place. -/
structure PageLength where
  length : Int
  isWhole : Bool := true
deriving DecidableEq

/-- The length that a value stands for, if it is a number. -/
def PageLength.ofJson? (v : Json) : Option PageLength :=
  v.ceiling?.map fun n => ⟨n, v.wholeNumber?.isSome⟩

namespace HistoryLimits

/-- The longest page there is: at least one record. -/
def maximum (l : HistoryLimits) : Int := max 1 l.ofMaximum

/-- The length of a page for which none is asked. -/
def default (l : HistoryLimits) : Int := max 1 (min l.ofDefault l.maximum)

/-- The length of a page for the one that is asked for. -/
def effective (l : HistoryLimits) (asked : Option PageLength) : Int :=
  max 1 (min ((asked.map PageLength.length).getD l.default) l.maximum)

/-- A page of this length can be cut: a double does not lie between the bounds. -/
def canCut (l : HistoryLimits) (asked : PageLength) : Bool :=
  asked.isWhole || asked.length ≤ 1 || l.maximum < asked.length

end HistoryLimits

end SitePreview
