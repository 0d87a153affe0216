import TileScope.Number.Shortest

/-!
# Layouts of decimals

A decimal is written positionally, or with one digit before the point and an exponent. A
`Layout` says between which places of the point the positional form is used, whether a whole
number keeps a zero after the point, and which digits a double gets that lies half-way.
-/

namespace TileScope

/-- How decimals are written. -/
structure Layout where
  /-- Positional when the point comes at least so many places after the first digit … -/
  least : Option Int
  /-- … and at most so many. -/
  most : Option Int
  /-- What a whole number in positional form ends with. -/
  wholeEnd : String
  /-- Where the digits come from when two decimals are equally near. -/
  tie : Tie

namespace Layout

/-- Zeros. -/
def zeros (n : Nat) : String := String.ofList (List.replicate n '0')

/-- Whether a point so many places after the first digit calls for positional form. -/
def isPositional (l : Layout) (place : Int) : Bool :=
  (l.least.all fun least => decide (least ≤ place)) && l.most.all fun most => decide (place ≤ most)

/-- Writes a decimal without an exponent; the point comes `place` places after the first digit. -/
def positional (l : Layout) (digits : String) (place : Int) : String :=
  let cs := digits.toList
  if (cs.length : Int) ≤ place then digits ++ zeros (place - cs.length).toNat ++ l.wholeEnd
  else if 0 < place then
    String.ofList (cs.take place.toNat) ++ "." ++ String.ofList (cs.drop place.toNat)
  else "0." ++ zeros (-place).toNat ++ digits

/-- Writes a decimal with an exponent, which always has a sign. -/
def scientific (digits : String) (place : Int) : String :=
  let exponent := (if 0 < place then "+" else "") ++ toString (place - 1)
  match digits.toList with
  | [] => ""
  | [c] => s!"{c}e{exponent}"
  | c :: rest => s!"{c}.{String.ofList rest}e{exponent}"

/-- Writes a positive decimal. -/
def write (l : Layout) (d : Decimal) : String :=
  let digits := toString d.digits
  let place := (digits.length : Int) + d.exponent
  if l.isPositional place then l.positional digits place else scientific digits place

/-- Writes a finite double, sign included. -/
def writeFinite (l : Layout) (d : Double) : String :=
  (if d.isNegative then "-" else "")
    ++ if d.mantissa = 0 then "0" ++ l.wholeEnd else l.write (d.shortest l.tie)

end Layout

/-- Property values are shown without an exponent, however long, and whole numbers without a
point. A tie goes up. -/
def Layout.shown : Layout := ⟨none, none, "", .up⟩

/-- JSON keeps numbers from `0.00001` up to sixteen digits before the point positional, and writes
whole numbers with a zero after the point. A tie goes to the even digit. -/
def Layout.json : Layout := ⟨some (-4), some 16, ".0", .toEven⟩

/-- A double as a property value shows it. -/
def Double.shown (d : Double) : String :=
  if d.isNaN then "NaN"
  else if d.isInfinite then (if d.isNegative then "-inf" else "inf")
  else Layout.shown.writeFinite d

/-- A double as a JSON number; only finite doubles have one. -/
def Double.json? (d : Double) : Option String :=
  if d.isNaN || d.isInfinite then none else some (Layout.json.writeFinite d)

end TileScope
