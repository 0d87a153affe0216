import TileScope.Number.Double

/-!
# Binary numbers of limited precision

A binary number is a whole significand times a power of two. Rounding to a number of bits takes the
nearest number whose significand has no more bits than that; of two that are equally near, the one
with the even significand.
-/

namespace TileScope

/-- The whole number nearest to a quotient; of two, the even one. -/
def nearestQuotient (num den : Nat) : Nat :=
  let below := num / den
  let rest := num % den
  if 2 * rest < den ∨ (2 * rest = den ∧ below % 2 = 0) then below else below + 1

/-- A binary number that is not negative: `significand * 2 ^ exponent`. -/
structure Binary where
  significand : Nat
  exponent : Int
deriving DecidableEq, Repr

namespace Binary

/-- The nearest number in units of `2 ^ unit`. -/
def inUnits (unit : Int) (b : Binary) : Nat :=
  if unit ≤ b.exponent then b.significand <<< (b.exponent - unit).toNat
  else nearestQuotient b.significand (1 <<< (unit - b.exponent).toNat)

/-- The exponent of the leading bit is one less than this. -/
def top (b : Binary) : Int := b.exponent + (b.significand.log2 + 1 : Nat)

/-- The nearest number of at most `bits` bits. -/
def round (bits : Nat) (b : Binary) : Binary :=
  let unit := b.top - bits
  if unit ≤ b.exponent then b else ⟨b.inUnits unit, unit⟩

/-- The product, rounded. -/
def times (bits : Nat) (a b : Binary) : Binary :=
  round bits ⟨a.significand * b.significand, a.exponent + b.exponent⟩

/-- A whole number, rounded. -/
def ofNat (bits n : Nat) : Binary := round bits ⟨n, 0⟩

/-- The reciprocal of a whole number, rounded. The quotient is taken to more bits than are kept,
with one bit at the end for all that is below. -/
def reciprocal (bits n : Nat) : Binary :=
  let places := bits + n.log2 + 3
  let below := if (1 <<< places) % n = 0 then 0 else 1
  round bits ⟨2 * ((1 <<< places) / n) + below, -(places + 1 : Nat)⟩

end Binary

namespace Double

/-- The double nearest to a binary number, with a sign. Beyond the largest double it is an
infinity. -/
def ofBinary (negative : Bool) (b : Binary) : Double :=
  let unit := max (b.top - 53) (-1074)
  let magnitude := ((unit + 1074).toNat <<< 52) + b.inUnits unit
  ⟨((if negative then 1 <<< 63 else 0)
    + if b.significand = 0 then 0 else min magnitude (2047 <<< 52)).toUInt64⟩

/-- The whole number that a double is, if it is one. -/
def whole? (d : Double) : Option Int :=
  if d.exponentField = 2047 then none
  else
    let signed := fun n : Nat => if d.isNegative then -(n : Int) else n
    if 1074 ≤ d.power then some (signed (d.mantissa <<< (d.power - 1074)))
    else if d.mantissa % (1 <<< (1074 - d.power)) = 0 then
      some (signed (d.mantissa >>> (1074 - d.power)))
    else none

end Double

end TileScope
