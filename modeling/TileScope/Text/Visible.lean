import TileScope.Text.Visible.Table

/-!
# Visible characters
-/

namespace TileScope.Text

/-- The character shows something of its own, or is the space. -/
def isVisible (c : Char) : Bool := !within Visible.hiddenBlocks c.toNat

end TileScope.Text
