import TileScope.Number.Layout

/-!
# Real numbers in text columns

A text column keeps a real number by its text, which has at most fifteen digits: the number is
rounded to so many, a tie up, and zeros at the end are left out. There is always a digit behind the
point. The form is positional as long as the first digit stands at most fourteen places in front of
the point or four behind it, else it has an exponent of a sign and two digits or more.

| number | text |
| --- | --- |
| a half | `0.5` |
| a third | `0.333333333333333` |
| 10 ^ 15 | `1.0e+15` |
-/

namespace TileScope

/-- A positive finite double with so many digits, zeros at the end left out; a tie goes up. -/
def Double.rounded (count : Nat) (d : Double) : Decimal :=
  let r := Rounding.ofDouble d
  let last := r.leading - count + 1
  let value := r.value * Nat.pow 10 (-last).toNat
  let unit := r.scale * Nat.pow 10 last.toNat
  Decimal.strip ((2 * value + unit) / (2 * unit)) last

namespace Archive

/-- Where the positional form is used, and the zero that a whole number keeps in it. -/
def realLayout : Layout := ⟨some (-3), some 15, ".0", .up⟩

/-- Writes a number of the given digits with an exponent; the point comes `place` places after the
first digit. -/
def realScientific (digits : String) (place : Int) : String :=
  let size := toString (place - 1).natAbs
  String.ofList (digits.toList.take 1) ++ "."
    ++ (if digits.length = 1 then "0" else String.ofList (digits.toList.drop 1))
    ++ (if place < 1 then "e-" else "e+") ++ (if size.length = 1 then "0" else "") ++ size

/-- The text that a text column keeps of a real number. -/
def realText (d : Double) : String :=
  let sign := if d.isNegative then "-" else ""
  if d.isInfinite then sign ++ "Inf"
  else if d.mantissa = 0 then "0.0"
  else
    let rounded := d.rounded 15
    let digits := toString rounded.digits
    let place := (digits.length : Int) + rounded.exponent
    sign ++ if realLayout.isPositional place then realLayout.positional digits place
      else realScientific digits place

end Archive

end TileScope
