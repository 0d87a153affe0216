import TileScope.Number.Double
import TileScope.Wire.Fault

/-!
# Vector tile messages

The parts of a tile as they are on the wire: a tile is a row of layers; a layer holds features and
two dictionaries, of keys and of values; a feature's tags are pairs of places in them, and its
geometry is a row of commands. Fields that were not there are `none`, or the default that the
format gives them.
-/

namespace TileScope

/-- A value of a dictionary. At most one of the fields should be there. -/
structure ValueMessage where
  text : Option String := none
  single : Option UInt32 := none
  double : Option Double := none
  int : Option Int64 := none
  uint : Option UInt64 := none
  sint : Option Int64 := none
  bool : Option Bool := none
deriving DecidableEq, Repr, Inhabited

/-- A feature: its tags are places in the dictionaries of its layer, key and value by turns. -/
structure FeatureMessage where
  id : Option UInt64 := none
  tags : Array UInt32 := #[]
  kind : Option UInt32 := none
  geometry : Array UInt32 := #[]
deriving DecidableEq, Repr, Inhabited

/-- A layer. -/
structure LayerMessage where
  version : UInt32 := 1
  name : String := ""
  features : Array FeatureMessage := #[]
  keys : Array String := #[]
  values : Array ValueMessage := #[]
  extent : Option UInt32 := none
deriving DecidableEq, Repr, Inhabited

namespace FieldNames

open Wire (FieldName)

def layers : FieldName := ⟨"Tile", "layers"⟩
def version : FieldName := ⟨"Layer", "version"⟩
def layerName : FieldName := ⟨"Layer", "name"⟩
def features : FieldName := ⟨"Layer", "features"⟩
def keys : FieldName := ⟨"Layer", "keys"⟩
def values : FieldName := ⟨"Layer", "values"⟩
def extent : FieldName := ⟨"Layer", "extent"⟩
def id : FieldName := ⟨"Feature", "id"⟩
def tags : FieldName := ⟨"Feature", "tags"⟩
def kind : FieldName := ⟨"Feature", "r#type"⟩
def geometry : FieldName := ⟨"Feature", "geometry"⟩
def text : FieldName := ⟨"Value", "string_value"⟩
def single : FieldName := ⟨"Value", "float_value"⟩
def double : FieldName := ⟨"Value", "double_value"⟩
def int : FieldName := ⟨"Value", "int_value"⟩
def uint : FieldName := ⟨"Value", "uint_value"⟩
def sint : FieldName := ⟨"Value", "sint_value"⟩
def bool : FieldName := ⟨"Value", "bool_value"⟩

end FieldNames

end TileScope
