import TileScope.Message.Reader
import TileScope.Tile.Basic
import TileScope.Tile.Error

/-!
# Decoding tiles

All of the payload is read as messages first. Then the layers are taken one by one: the name has to
be new, the version has to be 1 or 2, and each feature in turn has its geometry drawn and its tags
looked up. The first thing that is wrong fails the whole tile.
-/

namespace TileScope

/-- The extent of a layer that does not give one. -/
def defaultExtent : UInt32 := 4096

/-- The value that a message stands for: the first field that is there, in the order of the
schema. -/
def ValueMessage.property (m : ValueMessage) : PropertyValue :=
  match m with
  | { text := some s, .. } => .text s
  | { single := some bits, .. } => .double (.ofSingle bits)
  | { double := some d, .. } => .double d
  | { int := some n, .. } => .int n
  | { uint := some n, .. } => .uint n
  | { sint := some n, .. } => .int n
  | { bool := some b, .. } => .bool b
  | _ => .null

/-- The shape that a feature asks for, if its kind is known. -/
def FeatureMessage.shape? (f : FeatureMessage) : Option Shape :=
  match f.kind with
  | some 1 => some .point
  | some 2 => some .lineString
  | some 3 => some .polygon
  | _ => none

namespace LayerMessage

/-- Looks up pairs of tags, key before value; of a key that comes twice the later value stays. -/
def lookUpTags (layer : LayerMessage) (properties : OrderedMap String PropertyValue) :
    List UInt32 → Except Flaw (OrderedMap String PropertyValue)
  | key :: value :: rest =>
    match layer.keys[key.toNat]? with
    | none => .error (.keyIndex key layer.name)
    | some name =>
      match layer.values[value.toNat]? with
      | none => .error (.valueIndex value layer.name)
      | some message => lookUpTags layer (properties.insert name message.property) rest
  | _ => .ok properties

/-- The properties that a list of tags stands for. -/
def properties (layer : LayerMessage) (tags : List UInt32) :
    Except Flaw (OrderedMap String PropertyValue) :=
  if tags.length % 2 = 0 then layer.lookUpTags .empty tags else .error (.oddTags layer.name)

/-- Draws and looks up one feature. -/
def feature (layer : LayerMessage) (f : FeatureMessage) : Except Flaw Feature := do
  let geometry ← match f.shape? with
    | some shape =>
      (drawGeometry shape f.geometry.toList).mapError fun fault => .geometry fault layer.name
    | none => .ok (.raw f.geometry.toList)
  let properties ← layer.properties f.tags.toList
  return ⟨f.id, geometry, properties⟩

/-- Decodes one layer. -/
def decode (layer : LayerMessage) : Except DecodeError Layer :=
  if layer.version = 1 ∨ layer.version = 2 then
    match layer.features.toList.mapM layer.feature with
    | .error flaw => .error (.malformed flaw)
    | .ok features => .ok ⟨layer.version, layer.extent.getD defaultExtent, features.toArray⟩
  else .error (.unsupportedVersion layer.name layer.version)

end LayerMessage

/-- Decodes layers one after the other onto those decoded before. -/
def decodeLayers (layers : OrderedMap String Layer) :
    List LayerMessage → Except DecodeError (OrderedMap String Layer)
  | [] => .ok layers
  | layer :: rest =>
    if layers.contains layer.name then .error (.malformed (.duplicateLayer layer.name))
    else
      match layer.decode with
      | .error e => .error e
      | .ok decoded => decodeLayers (layers.insert layer.name decoded) rest

/-- A byte that could be the key of a field whose value is missing. -/
def isKeyByte (b : UInt8) : Bool :=
  b.toNat / 8 != 0 && (b % 8 == 0 || b % 8 == 1 || b % 8 == 2 || b % 8 == 5)

/-- Whether the last byte asks for another one: it goes on a varint, or could be a key. -/
def endsMidField (bytes : List UInt8) : Bool :=
  match bytes.getLast? with
  | none => false
  | some b => 128 ≤ b || isKeyByte b

/-- Whether a payload with a fault counts as cut short: a value goes past the end, a group ends
that is not open, or a varint is wrong and the last byte asks for another one. -/
def isCutShort (bytes : List UInt8) (fault : Wire.Fault) : Bool :=
  match fault.cause with
  | .underflow => true
  | .strayEnd => true
  | .varint => endsMidField bytes
  | _ => false

namespace Tile

/-- Decodes a payload. -/
def decode (bytes : List UInt8) : Except DecodeError Tile :=
  match readTile bytes with
  | .error fault =>
    .error (if isCutShort bytes fault then .truncated fault else .malformed (.wire fault))
  | .ok layers => (decodeLayers .empty layers.toList).map Tile.mk

/-- Whether a payload begins like a tile: it is empty or begins with a layer. -/
def looksLike (bytes : List UInt8) : Bool :=
  match bytes with
  | [] => true
  | b :: _ => b == 0x1a

end Tile

end TileScope
