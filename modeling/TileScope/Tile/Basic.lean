import TileScope.Geometry.Basic
import TileScope.Number.Layout
import TileScope.Ordered.Map

/-!
# Decoded tiles

A tile maps the names of its layers to layers. A layer keeps its features in order; a feature has
an optional id, a geometry and properties. Ids need not be unique.
-/

namespace TileScope

/-- The value of a property. -/
inductive PropertyValue where
  | text (s : String)
  | double (d : Double)
  | int (n : Int64)
  | uint (n : UInt64)
  | bool (b : Bool)
  | null
deriving DecidableEq, Repr

/-- How a property value is shown. -/
def PropertyValue.shown : PropertyValue → String
  | .text s => s
  | .double d => d.shown
  | .int n => toString n.toInt
  | .uint n => toString n.toNat
  | .bool b => if b then "true" else "false"
  | .null => "null"

/-- A feature of a layer. -/
structure Feature where
  id : Option UInt64
  geometry : Geometry
  properties : OrderedMap String PropertyValue
deriving DecidableEq, Repr

namespace Feature

/-- The kind of the feature's geometry. -/
def kind (f : Feature) : GeometryKind := f.geometry.kind

/-- The position of a feature that is a single point. -/
def point (f : Feature) : Option Point :=
  match f.geometry with
  | .points [p] => some p
  | _ => none

/-- The name of a feature: its property `name`, if that is a text. -/
def name (f : Feature) : Option String :=
  match f.properties.get? "name" with
  | some (.text s) => some s
  | _ => none

end Feature

/-- A layer of a tile. -/
structure Layer where
  version : UInt32
  extent : UInt32
  features : Array Feature
deriving DecidableEq, Repr

/-- A decoded tile: its layers by name. -/
structure Tile where
  layers : OrderedMap String Layer
deriving DecidableEq, Repr

namespace Tile

/-- Whether there are no layers. -/
def isEmpty (t : Tile) : Bool := t.layers.isEmpty

/-- The number of features in all layers. -/
def featureCount (t : Tile) : Nat :=
  t.layers.values.foldl (fun count layer => count + layer.features.size) 0

end Tile

end TileScope
