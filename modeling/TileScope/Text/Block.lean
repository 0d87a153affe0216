/-!
# Blocks of characters

A property of characters is given by the blocks of code points that have it.
-/

namespace TileScope.Text

/-- A block of consecutive code points. -/
structure Block where
  first : Nat
  last : Nat
deriving DecidableEq, Repr

/-- The code point is in the block. -/
def Block.holds (b : Block) (n : Nat) : Bool := b.first ≤ n && n ≤ b.last

/-- The code point is in one of the blocks. -/
def within (blocks : List Block) (n : Nat) : Bool := blocks.any (·.holds n)

end TileScope.Text
