import TileScope.Text.Mark.Table

/-!
# Marks

A mark joins the character before it.
-/

namespace TileScope.Text

/-- The character is a mark that takes no room of its own. -/
def isNonspacing (c : Char) : Bool := within Mark.nonspacingBlocks c.toNat

/-- The character is a mark. -/
def isMark (c : Char) : Bool := isNonspacing c || within Mark.spacingBlocks c.toNat

end TileScope.Text
