import TileScope.Number.Double

/-!
# The shortest decimal of a double

Every finite double has an interval of reals that round to it. The shortest decimal is the one
with the fewest digits in that interval, and of those the nearest to the double. It is found by
trying one digit, two digits and so on: on the grid of decimals with that many digits only the two
neighbours of the double can be in the interval if any decimal of the grid is. Of two neighbours
that are equally near a `Tie` says which one is taken.
-/

namespace TileScope

/-- A positive decimal: `digits * 10 ^ exponent`. -/
structure Decimal where
  digits : Nat
  exponent : Int
deriving DecidableEq, Repr

/-- Which of two equally near neighbours on a grid is taken. -/
inductive Tie where
  /-- The larger one. -/
  | up
  /-- The one that ends in an even digit. -/
  | toEven
deriving DecidableEq, Repr

/-- Whether a tie goes to the lower neighbour, which is `below` steps of the grid. -/
def Tie.goesBelow (tie : Tie) (below : Nat) : Bool :=
  match tie with
  | up => false
  | toEven => below % 2 == 0

namespace Decimal

/-- Drops zeros at the end of the digits. -/
def strip (digits : Nat) (exponent : Int) : Decimal :=
  if digits ≠ 0 ∧ digits % 10 = 0 then strip (digits / 10) (exponent + 1) else ⟨digits, exponent⟩
termination_by digits

end Decimal

/-- A double and the reals that round to it, in units of `1 / scale`: the value is `value`, the
interval goes from `low` to `high`. -/
structure Rounding where
  value : Nat
  low : Nat
  high : Nat
  /-- Whether the ends of the interval round to the double as well. -/
  closed : Bool
  scale : Nat

namespace Rounding

/-- The rounding interval of a positive finite double. The lower half is narrower at a power of
two; the ends belong to the interval when the mantissa is even. -/
def ofDouble (d : Double) : Rounding :=
  let m := d.mantissa
  let below := if d.fractionField = 0 ∧ 1 < d.exponentField then 1 else 2
  let unit := 1 <<< d.power
  ⟨4 * m * unit, (4 * m - below) * unit, (4 * m + 2) * unit, m % 2 == 0, 1 <<< 1076⟩

/-- Whether `n` steps of `step` lie in the interval. -/
def holds (r : Rounding) (step n : Nat) : Bool :=
  if r.closed then r.low ≤ n * step && n * step ≤ r.high
  else r.low < n * step && n * step < r.high

/-- The neighbour of the double on the grid with a step, if one is in the interval; of two the
nearer. -/
def onGrid (r : Rounding) (tie : Tie) (step : Nat) : Option Nat :=
  let below := r.value / step
  let above := below + 1
  match r.holds step below, r.holds step above with
  | true, true =>
    match compare (r.value - below * step) (above * step - r.value) with
    | .lt => some below
    | .gt => some above
    | .eq => some (if tie.goesBelow below then below else above)
  | true, false => some below
  | false, true => some above
  | false, false => none

/-- The interval in units a power of ten finer. -/
def finer (r : Rounding) (power : Nat) : Rounding :=
  { r with
    value := r.value * Nat.pow 10 power
    low := r.low * Nat.pow 10 power
    high := r.high * Nat.pow 10 power }

/-- The number of decimal digits of a number; zero has none. -/
def digitCount (n : Nat) : Nat := if n = 0 then 0 else 1 + digitCount (n / 10)
termination_by n

/-- The double on the grid of decimals whose last digit stands at `10 ^ exponent`. -/
def atExponent (r : Rounding) (tie : Tie) (exponent : Int) : Option Nat :=
  if 0 ≤ exponent then r.onGrid tie (r.scale * Nat.pow 10 exponent.toNat)
  else (r.finer (-exponent).toNat).onGrid tie r.scale

/-- Tries decimals whose last digit stands lower and lower, at most `tries` times. -/
def search (r : Rounding) (tie : Tie) : (tries : Nat) → (exponent : Int) → Option Decimal
  | 0, _ => none
  | tries + 1, exponent =>
    match r.atExponent tie exponent with
    | some digits => some (Decimal.strip digits exponent)
    | none => search r tie tries (exponent - 1)

/-- The place of the leading decimal digit of the double: `10 ^ leading` is at most its value and
`10 ^ (leading + 1)` is above it. -/
def leading (r : Rounding) : Int :=
  digitCount ((r.finer 400).value / r.scale) - 401

end Rounding

/-- The shortest decimal that rounds to a positive finite double. Seventeen digits always do. -/
def Double.shortest (tie : Tie) (d : Double) : Decimal :=
  let r := Rounding.ofDouble d
  (r.search tie 18 r.leading).getD ⟨0, 0⟩

end TileScope
