import TileScope.Grid.Key

/-!
# Archive rows

Archives count rows from the south edge: the row of a tile at zoom `z` is `2^z - 1` less its row
from the north edge. The flip is its own inverse, so an address on the grid goes there and back.
-/

namespace TileScope

/-- A tile address with rows counted from the south edge. It need not lie on the grid. -/
structure ArchiveRow where
  zoom : UInt8
  column : UInt32
  row : UInt32
deriving DecidableEq, Repr

/-- The address of a tile in an archive. -/
def TileKey.archiveRow (k : TileKey) : ArchiveRow := ⟨k.zoom, k.x, maxIndex k.zoom - k.y⟩

/-- The archive address of a zoom, column and row, checked as `TileKey.make?` checks it. -/
def archiveRow? (zoom : UInt8) (x y : UInt32) : Except AddressError ArchiveRow :=
  (TileKey.make? zoom x y).map (·.archiveRow)

/-- The tile at an archive address, if the grid has such a tile. A row off the grid is blamed as
it stands; a column off the grid is blamed with the row already flipped. -/
def ArchiveRow.key? (a : ArchiveRow) : Except AddressError TileKey :=
  if a.zoom ≤ maxZoom then
    if a.row ≤ maxIndex a.zoom then TileKey.make? a.zoom a.column (maxIndex a.zoom - a.row)
    else .error (.offGrid a.zoom a.column a.row)
  else .error (.zoom a.zoom)

end TileScope
