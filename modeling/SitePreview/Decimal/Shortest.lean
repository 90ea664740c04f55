import SitePreview.Decimal.Binary
import SitePreview.Text.Basic

/-! The shortest decimal that reads back as a given double. A double stands for the interval of the
numbers that round to it, and the shortest decimal is the nearest point of the coarsest decimal grid
that has a point in this interval. -/

namespace SitePreview.Decimal

/-- A positive number as digits and the place of the point: `0.d₁d₂… * 10 ^ point`. -/
structure Digits where
  digits : Nat
  count : Nat
  point : Int
deriving DecidableEq

/-- The numbers that round to a double, all as multiples of one unit: the value, and the ends of the
interval, which belong to it or not. The unit is `2 ^ exponent / 4`. -/
structure Interval where
  low : Nat
  value : Nat
  high : Nat
  closed : Bool
  exponent : Int

/-- The interval of a positive double. Below a power of two the doubles are twice as dense. -/
def Binary.interval (b : Binary) : Interval :=
  let m := b.mantissa
  let below := if m = 2 ^ 52 && b.exponent ≠ -1074 then 1 else 2
  ⟨4 * m - below, 4 * m, 4 * m + 2, m % 2 = 0, b.exponent - 2⟩

/-- The least `k` with `num / den < 10 ^ k`, for a positive fraction. -/
def decimalPoint (num den : Nat) : Int :=
  let up := (List.range 400).find? fun k => num < den * 10 ^ k
  match up with
  | some (k + 1) => (k + 1 : Nat)
  | some 0 =>
    match (List.range 400).find? fun k => den ≤ num * 10 ^ (k + 1) with
    | some k => -(k : Int)
    | none => 0
  | none => 0

/-- The nearest point of the grid of `count` digits that lies in the interval. -/
def Interval.onGrid? (i : Interval) (point : Int) (count : Nat) : Option Nat :=
  -- the grid's unit is `10 ^ (point - count)`; both sides are scaled to integers
  let shift := point - count
  let (ten, one) := if 0 ≤ shift then (10 ^ shift.toNat, 1) else (1, 10 ^ shift.natAbs)
  let two := if 0 ≤ i.exponent then 2 ^ i.exponent.toNat else 1
  let half := if 0 ≤ i.exponent then 1 else 2 ^ i.exponent.natAbs
  let unit := ten * half
  let scale (n : Nat) : Nat := n * two * one
  let value := scale i.value
  let inside (n : Nat) : Bool :=
    if i.closed then scale i.low ≤ n * unit && n * unit ≤ scale i.high
    else scale i.low < n * unit && n * unit < scale i.high
  let below := value / unit
  let above := below + 1
  let lowHit := inside below && below ≠ 0
  let highHit := inside above
  if lowHit && highHit then
    let down := value - below * unit
    let up := above * unit - value
    some (if down < up then below else if up < down then above
      else if below % 2 = 0 then below else above)
  else if lowHit then some below
  else if highHit then some above
  else none

/-- The fewest digits that read back as the positive double. -/
def Binary.shortest (b : Binary) : Digits :=
  let i := b.interval
  let (num, den) := b.scaled 0
  let point := decimalPoint num den
  match (List.range 17).findSome? fun k => (i.onGrid? point (k + 1)).map fun n => (k + 1, n) with
  | none => ⟨0, 1, 1⟩
  | some (count, n) =>
    -- the grid point may be the next power of ten
    if n = 10 ^ count then ⟨1, 1, point + 1⟩ else ⟨n, count, point⟩

/-- A layout of shortest decimals: the powers of ten written without an exponent. -/
structure Layout where
  least : Int
  bound : Int

/-- Positional from `0.0001` up to below `10 ^ 16`, with an exponent of at least two digits
elsewhere. -/
def Layout.standard : Layout := ⟨-4, 16⟩

def Digits.layOut (l : Layout) (d : Digits) : Text :=
  let ds := Text.ofNat d.digits
  let power := d.point - 1
  if l.least ≤ power && power < l.bound then
    if d.point ≤ 0 then "0." ++ Text.repeated d.point.natAbs "0" ++ ds
    else
      let n := d.point.toNat
      let whole := Text.padRight n '0' (ds.take n)
      whole ++ "." ++ (if ds.length ≤ n then ("0" : Text) else ds.drop n)
  else
    let fraction : Text := if ds.length ≤ 1 then [] else "." ++ ds.drop 1
    let sign : Text := if power < 0 then "-" else "+"
    ds.take 1 ++ fraction ++ "e" ++ sign ++ Text.padLeft 2 '0' (.ofNat power.natAbs)

/-- The shortest decimal of a double, with a point or an exponent. -/
def shortest (x : Float) : Text :=
  match Value.ofFloat x with
  | .notANumber => "nan"
  | .infinite negative => if negative then "-inf" else "inf"
  | .finite b =>
    (if b.negative then ("-" : Text) else []) ++
      (if b.mantissa = 0 then ("0.0" : Text) else b.shortest.layOut .standard)

end SitePreview.Decimal
