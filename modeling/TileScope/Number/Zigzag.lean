/-!
# Zigzag codes

Signed numbers as unsigned ones: 0, -1, 1, -2, 2, … become 0, 1, 2, 3, 4, …, so that numbers near
zero have small codes.
-/

namespace TileScope

/-- The number with a code: even codes count up from zero, odd ones down from minus one. -/
def zigzag (code : Nat) : Int := if code % 2 = 0 then (code / 2 : Nat) else -(code / 2 : Nat) - 1

/-- The code of a number. -/
def zigzagCode (n : Int) : Nat := if 0 ≤ n then 2 * n.toNat else 2 * (-n).toNat - 1

/-- The code of a number stands for it. -/
@[simp] theorem zigzag_zigzagCode (n : Int) : zigzag (zigzagCode n) = n := by
  unfold zigzag zigzagCode
  split <;> split <;> omega

end TileScope
