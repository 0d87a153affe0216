import TileScope.Message.Basic
import TileScope.Number.Zigzag
import TileScope.Wire.Field

/-!
# Reading tile messages

Every message type says what a field with a number does to it. A field that comes again replaces
an earlier one, or adds to it where the message holds a row of values. A single number of 32 bits
keeps the low half of its varint. Groups among unknown fields may be nested a hundred deep,
counting the messages they are in.

`readTile` reads a whole payload; the empty payload is a tile without layers.
-/

namespace TileScope

open Wire

/-- The deepest nesting of messages and groups. -/
def maxDepth : Nat := 100

namespace ValueMessage

/-- What a field does to a value. -/
def merge (k : Key) (m : ValueMessage) : Read ValueMessage :=
  match k.tag with
  | 1 => ((typed .delimited k.wire Wire.text).map fun s =>
      { m with text := some s }).inField FieldNames.text
  | 2 => ((typed .fixed32 k.wire (fixed 3)).map fun n =>
      { m with single := some n.toUInt32 }).inField FieldNames.single
  | 3 => ((typed .fixed64 k.wire (fixed 7)).map fun n =>
      { m with double := some ⟨n.toUInt64⟩ }).inField FieldNames.double
  | 4 => ((typed .varint k.wire varint).map fun n =>
      { m with int := some n.toInt64 }).inField FieldNames.int
  | 5 => ((typed .varint k.wire varint).map fun n =>
      { m with uint := some n }).inField FieldNames.uint
  | 6 => ((typed .varint k.wire varint).map fun n =>
      { m with sint := some (Int64.ofInt (zigzag n.toNat)) }).inField FieldNames.sint
  | 7 => ((typed .varint k.wire varint).map fun n =>
      { m with bool := some (n != 0) }).inField FieldNames.bool
  | _ => Read.map (fun _ => m) (skipValue (maxDepth - 2) k)

end ValueMessage

namespace FeatureMessage

/-- What a field does to a feature. -/
def merge (k : Key) (m : FeatureMessage) : Read FeatureMessage :=
  match k.tag with
  | 1 => ((typed .varint k.wire varint).map fun n =>
      { m with id := some n }).inField FieldNames.id
  | 2 => ((packed k.wire m.tags).map fun tags =>
      { m with tags := tags }).inField FieldNames.tags
  | 3 => ((typed .varint k.wire varint).map fun n =>
      { m with kind := some n.toUInt32 }).inField FieldNames.kind
  | 4 => ((packed k.wire m.geometry).map fun geometry =>
      { m with geometry := geometry }).inField FieldNames.geometry
  | _ => Read.map (fun _ => m) (skipValue (maxDepth - 2) k)

end FeatureMessage

namespace LayerMessage

/-- What a field does to a layer. -/
def merge (k : Key) (m : LayerMessage) : Read LayerMessage :=
  match k.tag with
  | 15 => ((typed .varint k.wire varint).map fun n =>
      { m with version := n.toUInt32 }).inField FieldNames.version
  | 1 => ((typed .delimited k.wire Wire.text).map fun s =>
      { m with name := s }).inField FieldNames.layerName
  | 2 => ((message FeatureMessage.merge {} k.wire).map fun f =>
      { m with features := m.features.push f }).inField FieldNames.features
  | 3 => ((typed .delimited k.wire Wire.text).map fun s =>
      { m with keys := m.keys.push s }).inField FieldNames.keys
  | 4 => ((message ValueMessage.merge {} k.wire).map fun v =>
      { m with values := m.values.push v }).inField FieldNames.values
  | 5 => ((typed .varint k.wire varint).map fun n =>
      { m with extent := some n.toUInt32 }).inField FieldNames.extent
  | _ => Read.map (fun _ => m) (skipValue (maxDepth - 1) k)

end LayerMessage

/-- What a field does to the layers of a tile. -/
def mergeTile (k : Key) (layers : Array LayerMessage) : Read (Array LayerMessage) :=
  match k.tag with
  | 3 => ((message LayerMessage.merge {} k.wire).map fun layer =>
      layers.push layer).inField FieldNames.layers
  | _ => Read.map (fun _ => layers) (skipValue maxDepth k)

/-- Reads the layers of a whole payload. -/
def readTile (bytes : List UInt8) : Except Fault (Array LayerMessage) :=
  let i := Input.ofBytes bytes
  (Read.loop (field mergeTile) 0 (i.length + 1) #[] i i.length_lt_succ).map (·.value)

end TileScope
