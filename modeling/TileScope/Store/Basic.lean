import TileScope.Grid.Notation
import TileScope.Ordered.Map

/-!
# Tile stores

A store gives the stored bytes of a tile. That a tile is not there is told apart from not being
able to look.
-/

namespace TileScope

/-- Why a store gives no bytes. -/
inductive StoreError where
  /-- The store has no such tile. -/
  | notFound (key : TileKey)
  /-- The archive cannot be opened or read. -/
  | io (cause : String)
  /-- The tile service cannot be reached or refuses. -/
  | fetch (cause : String)
deriving DecidableEq, Repr

namespace StoreError

/-- The wording of a store error. -/
def message : StoreError → String
  | notFound key => s!"tile {key} not found"
  | io cause => s!"I/O error: {cause}"
  | fetch cause => s!"fetch failed: {cause}"

/-- Whether the error says that the store has no such tile. -/
def isNotFound : StoreError → Bool
  | notFound _ => true
  | _ => false

end StoreError

/-- Facts about a whole tileset, by name. -/
abbrev Metadata := OrderedMap String String

/-- A source of stored tiles. -/
structure Store where
  get : TileKey → Except StoreError ByteArray
  /-- What the store is, in words. -/
  description : String
  metadata : Except StoreError Metadata

end TileScope
