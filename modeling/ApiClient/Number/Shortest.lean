import ApiClient.Number.Double

/-!
The fewest decimal digits that read back as a given floating-point number.

A number `m · 2 ^ e` is the nearest one for every real between two ends, which belong to the
interval when `m` is even. Of the decimal grids with one, two, … digits the first that has a
point in the interval is taken; of two such points the nearer one.
-/

set_option autoImplicit false

namespace ApiClient.Double

/-- A positive decimal `digits * 10 ^ exponent`. -/
structure Decimal where
  digits : Nat
  exponent : Int
deriving DecidableEq, Repr

/-- The reals that round to one number, as numerators over one denominator. -/
structure Interval where
  low : Nat
  middle : Nat
  high : Nat
  den : Nat
  closed : Bool

/-- The interval of `m * 2 ^ e`; below a power of two the numbers lie twice as close. -/
def interval (m : Nat) (e : Int) : Interval :=
  let below := if m == Nat.pow 2 52 && e != -1074 then 1 else 2
  let up := if 2 ≤ e then Nat.pow 2 (e - 2).toNat else 1
  let den := if 2 ≤ e then 1 else Nat.pow 2 (2 - e).toNat
  ⟨(4 * m - below) * up, 4 * m * up, (4 * m + 2) * up, den, m % 2 == 0⟩

/-- Whether `num / den` lies in the interval, for the interval's own denominator. -/
def Interval.contains (i : Interval) (num : Nat) : Bool :=
  if i.closed then decide (i.low ≤ num) && decide (num ≤ i.high)
  else decide (i.low < num) && decide (num < i.high)

/-- The same interval measured in units of `10 ^ p`. -/
def Interval.inUnits (i : Interval) (p : Int) : Interval :=
  if 0 ≤ p then { i with den := i.den * Nat.pow 10 p.toNat }
  else
    let k := Nat.pow 10 (-p).toNat
    { i with low := i.low * k, middle := i.middle * k, high := i.high * k }

/-- The point of the grid of multiples of `10 ^ p` that stands for the interval, if any. -/
def Interval.gridPoint? (i : Interval) (p : Int) : Option Decimal :=
  let j := i.inUnits p
  let floor := j.middle / j.den
  let lower := floor * j.den
  let upper := lower + j.den
  let takeUpper : Bool :=
    if 2 * j.middle == lower + upper then floor % 2 == 1
    else decide (lower + upper < 2 * j.middle)
  match j.contains lower, j.contains upper with
  | true, true => some ⟨if takeUpper then floor + 1 else floor, p⟩
  | true, false => some ⟨floor, p⟩
  | false, true => some ⟨floor + 1, p⟩
  | false, false => none

/-- The exponent of the first decimal digit of `num / den`. -/
def leadingExponent (num den : Nat) : Int :=
  if den ≤ num then ((Nat.toDigits 10 (num / den)).length : Int) - 1
  else
    match (List.range 400).find? fun k => decide (den ≤ num * Nat.pow 10 (k + 1)) with
    | some k => -((k : Int) + 1)
    | none => -400

/-- Drop zeros at the end of the digits. -/
def Decimal.trimmed : Nat → Decimal → Decimal
  | 0, d => d
  | n + 1, d =>
    if d.digits != 0 && d.digits % 10 == 0 then trimmed n ⟨d.digits / 10, d.exponent + 1⟩ else d

/-- The shortest decimal of `m * 2 ^ e`, for a positive `m`. -/
def shortest (m : Nat) (e : Int) : Decimal :=
  let i := interval m e
  let first := leadingExponent i.middle i.den
  let grids := (List.range 17).map fun n : Nat => first - n
  ((grids.findSome? i.gridPoint?).getD ⟨0, 0⟩).trimmed 17

end ApiClient.Double
