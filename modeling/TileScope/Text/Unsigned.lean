/-!
# Unsigned numbers in text

The number syntax of tile keys, feature ids and time limits: ASCII digits, at least one, with an
optional plus sign in front; zeros may lead. A reader is given the bound below which the value has
to lie.
-/

namespace TileScope.Text

/-- The value of one ASCII digit. -/
def digit? (c : Char) : Option Nat :=
  if '0' ≤ c ∧ c ≤ '9' then some (c.toNat - '0'.toNat) else none

/-- Reads digits on from the value read so far. -/
def digitsFrom (value : Nat) : List Char → Option Nat
  | [] => some value
  | c :: rest => (digit? c).bind fun d => digitsFrom (10 * value + d) rest

/-- Reads a run of one or more digits. -/
def digits? : List Char → Option Nat
  | [] => none
  | cs => digitsFrom 0 cs

/-- Reads an optional plus sign and digits with a value below `bound`. -/
def unsigned? (bound : Nat) (cs : List Char) : Option Nat :=
  let digits := match cs with
    | '+' :: rest => rest
    | _ => cs
  (digits? digits).filter (· < bound)

/-- Reads a number that fits 64 bits. -/
def word64? (s : String) : Option UInt64 := (unsigned? UInt64.size s.toList).map (·.toUInt64)

end TileScope.Text
