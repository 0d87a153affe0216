/-!
# Runs of characters

A mapping of characters is given by runs of code points that all go the same distance.
-/

namespace TileScope.Text

/-- The code points from `first` to `last`, every `step`-th of them, that each stand for the one
`shift` code points further on. -/
structure Run where
  first : Nat
  last : Nat
  step : Nat
  shift : Int
deriving DecidableEq, Repr

/-- The code point is in the run. -/
def Run.holds (r : Run) (n : Nat) : Bool :=
  r.first ≤ n && n ≤ r.last && (n - r.first) % r.step == 0

/-- What a code point stands for by the first run that it is in. -/
def image? (runs : List Run) (n : Nat) : Option Nat :=
  (runs.find? (·.holds n)).map fun r => ((n : Int) + r.shift).toNat

end TileScope.Text
