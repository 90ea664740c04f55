import SitePreview.Json.Number

/-! Timings of operations. Of every operation the most recent durations are kept, as many as the
window holds, and statistics see nothing but these. -/

namespace SitePreview

/-- The operations whose every call is timed. -/
inductive TimedOperation
  | hash
  | summary
  | render
deriving DecidableEq

def TimedOperation.name : TimedOperation → Text
  | hash => "snapshot.hash"
  | summary => "snapshot.summarize"
  | render => "preview.synthesize"

/-- A duration in milliseconds. Integers are kept as they are until they meet a double. -/
inductive Duration
  | whole (n : Int)
  | real (x : Float)
deriving DecidableEq

/-- Why there are no timings or no statistics: the window is negative or too large, or a mean or an
integer is too large for a double. -/
inductive TimingError
  | negativeWindow
  | windowTooLarge
  | meanTooLarge
  | integerTooLarge
deriving DecidableEq

def TimingError.message : TimingError → Text
  | negativeWindow => "maxlen must be non-negative"
  | windowTooLarge => "Python int too large to convert to C ssize_t"
  | meanTooLarge => "integer division result too large for a float"
  | integerTooLarge => "int too large to convert to float"

namespace Duration

/-- The duration that a value stands for, if it is a number. -/
def ofJson? : Json → Option Duration
  | .float x => some (real x)
  | v => v.wholeNumber?.map whole

def toFloat : Duration → Except TimingError Float
  | whole n => ((Decimal.quotient? n 1).map Except.ok).getD (.error .integerTooLarge)
  | real x => .ok x

/-- The duration in steps of the least positive double. -/
def steps : Duration → Int
  | whole n => n * Decimal.stepsOfOne
  | real x => ((Decimal.Value.ofFloat x).steps?).getD 0

/-- The sum, which is an integer if both parts are. -/
def add : Duration → Duration → Except TimingError Duration
  | whole m, whole n => .ok (whole (m + n))
  | a, b => do return real ((← a.toFloat) + (← b.toFloat))

/-- The duration divided by a count. -/
def divide (d : Duration) (count : Nat) : Except TimingError Float :=
  match d with
  | whole n => ((Decimal.quotient? n count).map Except.ok).getD (.error .meanTooLarge)
  | real x => .ok (x / count.toFloat)

end Duration

/-- The recent durations of operations, the oldest first. -/
structure Timings where
  window : Nat := 200
  durations : List (Text × List Duration) := []

/-- Statistics about the recent durations of an operation, in milliseconds. -/
structure TimingStats where
  operation : Text
  count : Nat
  mean : Float
  median : Float
  upper : Float
  maximum : Float
deriving DecidableEq

namespace Timings

def lastItems {α : Type} (n : Nat) (xs : List α) : List α := xs.drop (xs.length - n)

/-- The entries with a duration added to an operation, of which the last ones stay. -/
def addEntry (window : Nat) (operation : Text) (d : Duration) :
    List (Text × List Duration) → List (Text × List Duration)
  | [] => [(operation, lastItems window [d])]
  | (o, ds) :: rest =>
    if o = operation then (o, lastItems window (ds ++ [d])) :: rest
    else (o, ds) :: addEntry window operation d rest

def record (t : Timings) (operation : Text) (d : Duration) : Timings :=
  { t with durations := addEntry t.window operation d t.durations }

/-- The timings after durations were recorded one after another. A window is needed for the first of
them. -/
def ofDurations (window : Int) (ds : List (Text × Duration)) : Except TimingError Timings :=
  if ds.isEmpty then .ok {}
  else if window < 0 then .error .negativeWindow
  else if 2 ^ 63 ≤ window then .error .windowTooLarge
  else .ok (ds.foldl (fun t (o, d) => t.record o d) { window := window.toNat })

def recent (t : Timings) (operation : Text) : List Duration :=
  (t.durations.lookup operation).getD []

/-- The operations that were ever recorded, in code point order. -/
def operations (t : Timings) : List Text := Text.sort (t.durations.map Prod.fst)

/-- The value that a share of the sorted values lies below, on the line between its two
neighbours. -/
def percentile (sorted : List Duration) (share : Float) : Except TimingError Float :=
  match sorted with
  | [] => .ok 0
  | [d] => d.toFloat
  | d :: _ =>
    let last := sorted.length - 1
    let rank := share * last.toFloat
    let lower := rank.toUInt64.toNat
    let upper := min (lower + 1) last
    let weight := rank - lower.toFloat
    do
      let below ← (sorted.getD lower d).toFloat
      let above ← (sorted.getD upper d).toFloat
      return below * (1 - weight) + above * weight

/-- Statistics about an operation, or `none` if its window is empty. Sums run over the sorted
durations from the least on. -/
def stats (t : Timings) (operation : Text) : Except TimingError (Option TimingStats) :=
  match t.recent operation with
  | [] => .ok none
  | d :: ds => do
    let sorted := (d :: ds).mergeSort fun a b => decide (a.steps ≤ b.steps)
    let total ← sorted.foldlM Duration.add (.whole 0)
    let mean ← total.divide sorted.length
    let median ← percentile sorted 0.5
    let upper ← percentile sorted 0.95
    let maximum ← (sorted.getLastD d).toFloat
    return some ⟨operation, sorted.length, mean, median, upper, maximum⟩

end Timings

end SitePreview
