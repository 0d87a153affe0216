import TileScope.Grid.Key
import TileScope.Ordered.Set

/-!
# The window around a tile

The tile and the up to eight tiles that touch it. The grid has edges on all four sides: what falls
off is left out, and nothing comes in again on the far side.
-/

namespace TileScope

/-- An index and the two beside it, as far as they lie between `0` and `last`, ascending. -/
def around (last i : UInt32) : List UInt32 :=
  (if 0 < i then [i - 1] else []) ++ i :: (if i < last then [i + 1] else [])

/-- The tile and its neighbours, in key order. -/
def TileKey.window (k : TileKey) : OrderedSet TileKey :=
  .ofList <| (around (maxIndex k.zoom) k.x).flatMap fun x =>
    (around (maxIndex k.zoom) k.y).filterMap fun y => (TileKey.make? k.zoom x y).toOption

end TileScope
