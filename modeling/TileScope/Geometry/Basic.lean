/-!
# Geometries

Geometries in the integer coordinates of a layer. Coordinates outside the layer's extent are
legal and are kept as they are.
-/

namespace TileScope

/-- A point in layer coordinates. -/
structure Point where
  x : Int32
  y : Int32
deriving DecidableEq, Repr

namespace Point

/-- The written form of a point. -/
def render (p : Point) : String := s!"({p.x.toInt}, {p.y.toInt})"

instance : ToString Point := ⟨render⟩

/-- Whether both coordinates are at least zero and below the extent. -/
def isWithin (p : Point) (extent : UInt32) : Bool :=
  decide (0 ≤ p.x.toInt ∧ p.x.toInt < extent.toNat ∧ 0 ≤ p.y.toInt ∧ p.y.toInt < extent.toNat)

end Point

/-- The kinds of geometry. -/
inductive GeometryKind where
  | point
  | lineString
  | polygon
  | unknown
deriving DecidableEq, Repr

/-- The name of a kind. -/
def GeometryKind.name : GeometryKind → String
  | .point => "Point"
  | .lineString => "LineString"
  | .polygon => "Polygon"
  | .unknown => "Unknown"

/-- A geometry. -/
inductive Geometry where
  /-- One or more points. -/
  | points (points : List Point)
  /-- Paths, in the order in which they are drawn. -/
  | lines (paths : List (List Point))
  /-- Rings, in the order in which they are drawn. -/
  | rings (paths : List (List Point))
  /-- The commands of a feature whose kind is not known, as they are. -/
  | raw (commands : List UInt32)
deriving DecidableEq, Repr

namespace Geometry

/-- The kind of a geometry. -/
def kind : Geometry → GeometryKind
  | points _ => .point
  | lines _ => .lineString
  | rings _ => .polygon
  | raw _ => .unknown

/-- The number of points, paths or rings; commands that were not drawn have no parts. -/
def partCount : Geometry → Nat
  | points ps => ps.length
  | lines paths => paths.length
  | rings paths => paths.length
  | raw _ => 0

/-- The number of coordinates, or of integers in commands that were not drawn. -/
def coordinateCount : Geometry → Nat
  | points ps => ps.length
  | lines paths => paths.flatten.length
  | rings paths => paths.flatten.length
  | raw commands => commands.length

/-- The coordinates of a point geometry; the other kinds have none. -/
def pointList : Geometry → List Point
  | points ps => ps
  | _ => []

end Geometry

end TileScope
