import TileScope.Grid.Key
import TileScope.Text.Blank
import TileScope.Text.Pieces
import TileScope.Text.Unsigned

/-!
# Tile keys in text

A key is written `z/x/y` in plain decimal. Read back, white space around the whole text, a plus
sign before a number and leading zeros are accepted as well. The number of parts is looked at
before any part is.
-/

namespace TileScope

namespace TileKey

/-- The written form of a key. -/
def render (k : TileKey) : String := s!"{k.zoom.toNat}/{k.x.toNat}/{k.y.toNat}"

instance : ToString TileKey := ⟨render⟩

end TileKey

/-- Reads a key. A text of another form is reported with the white space it came with. -/
def TileKey.parse (text : String) : Except AddressError TileKey :=
  match Text.pieces '/' (Text.trimChars text.toList) with
  | [z, x, y] =>
    match Text.unsigned? UInt8.size z, Text.unsigned? UInt32.size x,
      Text.unsigned? UInt32.size y with
    | some z, some x, some y => TileKey.make? z.toUInt8 x.toUInt32 y.toUInt32
    | _, _, _ => .error (.malformed text)
  | _ => .error (.malformed text)

end TileScope
