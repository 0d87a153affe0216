import TileScope.Number.Binary

/-!
# Numbers written in cells

A text writes a number in decimal digits. It may have a sign, a point and an exponent, and blanks
around it. A number without point and exponent is taken as it is. Any other is worked out with 64
bits: as many leading digits as fit into them, which are then multiplied by powers of ten, each of
them and each product rounded to 64 bits; the result is rounded to a double.
-/

namespace TileScope.Archive

/-- A blank around a number. -/
def isNumberBlank (c : Char) : Bool := c = ' ' || ('\t' ≤ c && c ≤ '\r')

/-- A number in digits. -/
structure Numeral where
  negative : Bool
  /-- The digits in front of the point. -/
  whole : List Char
  /-- The digits behind the point, if there is one. -/
  fraction : Option (List Char)
  exponent : Option Int
deriving DecidableEq, Repr

/-- Takes the sign in front. -/
def takeSign : List Char → Bool × List Char
  | '-' :: rest => (true, rest)
  | '+' :: rest => (false, rest)
  | cs => (false, cs)

/-- The number that a digit writes. -/
def digitValue (c : Char) : Nat := c.toNat - '0'.toNat

/-- The number that a run of digits writes. -/
def digitsValue (cs : List Char) : Nat := cs.foldl (fun n c => 10 * n + digitValue c) 0

/-- The size of an exponent. One that has reached 10000 before its last digit is cut down. -/
def exponentSize (cs : List Char) : Nat :=
  cs.foldl (fun n c => if n < 10000 then 10 * n + digitValue c else 10000) 0

/-- Reads the exponent of a number, which may be missing. -/
def exponent? : List Char → Option (Option Int)
  | [] => some none
  | e :: rest =>
    let (negative, digits) := takeSign rest
    if (e = 'e' ∨ e = 'E') ∧ digits ≠ [] ∧ digits.all Char.isDigit then
      some (some (if negative then -(exponentSize digits : Int) else exponentSize digits))
    else none

namespace Numeral

/-- Reads a number. -/
def read? (cs : List Char) : Option Numeral :=
  let body := ((cs.dropWhile isNumberBlank).reverse.dropWhile isNumberBlank).reverse
  let (negative, body) := takeSign body
  let whole := body.takeWhile Char.isDigit
  let (fraction, rest) := match body.dropWhile Char.isDigit with
    | '.' :: rest => (some (rest.takeWhile Char.isDigit), rest.dropWhile Char.isDigit)
    | rest => (none, rest)
  if whole = [] ∧ fraction.getD [] = [] then none
  else (exponent? rest).map (⟨negative, whole, fraction, ·⟩)

/-- A significand of this size takes no further digit. -/
def fullSignificand : Nat := (UInt64.size - 1 - 9) / 10

/-- The leading digits as a significand, and the power of ten that goes with it. -/
def leading (d : Numeral) : Nat × Int :=
  let whole := d.whole.foldl (fun (s, e) c =>
    if s < fullSignificand then (10 * s + digitValue c, e) else (s, e + 1)) ((0, 0) : Nat × Int)
  (d.fraction.getD []).foldl (fun (s, e) c =>
    if s < fullSignificand then (10 * s + digitValue c, e - 1) else (s, e)) whole

/-- Moves powers of ten into a significand as long as they fit. -/
def fillUp : (exponent significand : Nat) → Nat × Nat
  | 0, s => (s, 0)
  | e + 1, s => if s < UInt64.size / 10 then fillUp e (10 * s) else (s, e + 1)

/-- Takes powers of ten out of a significand as long as there are any. -/
def takeOut : (exponent significand : Nat) → Nat × Nat
  | 0, s => (s, 0)
  | e + 1, s => if s % 10 = 0 then takeOut e (s / 10) else (s, e + 1)

/-- Multiplies by what a power of ten comes to, in steps of 100, 10 and 1 of its exponent. -/
def scale (power : Nat → Binary) (exponent : Nat) (b : Binary) : Binary :=
  let times := fun (step count : Nat) (b : Binary) =>
    Nat.repeat (Binary.times 64 (power step)) count b
  times 1 (exponent % 10) (times 10 (exponent / 10 % 10) (times 100 (exponent / 100) b))

/-- The double that a numeral comes to. -/
def toDouble (d : Numeral) : Double :=
  let (s, shift) := d.leading
  let exponent := d.exponent.getD 0 + shift
  Double.ofBinary d.negative <|
    if s = 0 then ⟨0, 0⟩
    else if 0 ≤ exponent then
      let (s, e) := fillUp exponent.toNat s
      scale (fun n => Binary.ofNat 64 (Nat.pow 10 n)) e ⟨s, 0⟩
    else
      let (s, e) := takeOut (-exponent).toNat s
      scale (fun n => Binary.reciprocal 64 (Nat.pow 10 n)) e ⟨s, 0⟩

/-- The number as it is written, if it has no point and no exponent. -/
def plain? (d : Numeral) : Option Int :=
  if d.fraction = none ∧ d.exponent = none then
    some (if d.negative then -(digitsValue d.whole : Int) else digitsValue d.whole)
  else none

end Numeral

end TileScope.Archive
