/-!
# Double-precision numbers

A double is kept as its 64 bits: a sign, eleven bits of exponent and 52 bits of fraction. Two
doubles are the same value of a property exactly when their bits agree. Single-precision numbers
widen to doubles without rounding.
-/

namespace TileScope

/-- A double-precision number, by its bits. -/
structure Double where
  bits : UInt64
deriving DecidableEq, Repr

namespace Double

/-- Whether the sign bit is set. -/
def isNegative (d : Double) : Bool := d.bits.toNat.testBit 63

/-- The exponent field. -/
def exponentField (d : Double) : Nat := (d.bits.toNat >>> 52) % 2048

/-- The fraction field. -/
def fractionField (d : Double) : Nat := d.bits.toNat % (1 <<< 52)

/-- Whether the bits are of no number. -/
def isNaN (d : Double) : Bool := d.exponentField == 2047 && d.fractionField != 0

/-- Whether the bits are of an infinity. -/
def isInfinite (d : Double) : Bool := d.exponentField == 2047 && d.fractionField == 0

/-- The magnitude of a finite double as `mantissa * 2 ^ (power - 1074)`. -/
def mantissa (d : Double) : Nat :=
  if d.exponentField = 0 then d.fractionField else d.fractionField + (1 <<< 52)

/-- The exponent that goes with `mantissa`, above the least one. -/
def power (d : Double) : Nat := d.exponentField - 1

/-- Assembles the three fields. -/
def ofFields (negative : Bool) (exponent fraction : Nat) : Double :=
  ⟨((if negative then 1 <<< 63 else 0) + (exponent <<< 52) + fraction).toUInt64⟩

/-- The double of the same value as the single-precision number with the given bits. The fraction
moves up to the wider field; a number below the normal range of singles becomes a normal double. -/
def ofSingle (bits : UInt32) : Double :=
  let n := bits.toNat
  let negative := n.testBit 31
  let exponent := (n >>> 23) % 256
  let fraction := n % (1 <<< 23)
  if exponent = 255 then ofFields negative 2047 (fraction <<< 29)
  else if exponent ≠ 0 then ofFields negative (exponent + 896) (fraction <<< 29)
  else if fraction = 0 then ofFields negative 0 0
  else
    let lead := fraction.log2
    ofFields negative (lead + 874) ((fraction - (1 <<< lead)) <<< (52 - lead))

end Double

end TileScope
