import TileScope.Store.Basic
import TileScope.Text.Ends

/-!
# Tile services

A tile service answers for the tile `z/x/y` under its base address, `/`, and the key. Slashes at
the end of the base address do not count. A client is anything that gets the bytes under an
address.
-/

namespace TileScope.Service

/-- Gets the bytes under an address. -/
abbrev Client := String → Except StoreError ByteArray

/-- The address of a tile. -/
def tileAddress (base : String) (key : TileKey) : String :=
  Text.dropSlashesEnd base ++ "/" ++ key.render

/-- A tile service as a store. It has no metadata. -/
def store (base : String) (client : Client) : Store :=
  { get := fun key => client (tileAddress base key)
    description := Text.dropSlashesEnd base
    metadata := .ok .empty }

end TileScope.Service
