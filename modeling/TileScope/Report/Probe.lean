import TileScope.Json.Value
import TileScope.Report.Line
import TileScope.Search.Outside

/-!
# The report of a probe

The layers of one tile and its points outside the extent, as lines and as JSON.
-/

namespace TileScope

/-- A tile that was looked at on its own. -/
structure Probe where
  source : String
  metadata : Metadata
  key : TileKey
  loaded : LoadedTile

namespace Probe

/-- The lines of the points outside the extent. -/
def outsideLines (p : Probe) : List Line :=
  if p.loaded.tile.outside.isEmpty then [.noneOutside]
  else (p.loaded.tile.mapOutside fun point f => Line.outside point.point f).flatMap
    fun (name, points) => .outsideCount name points.length :: points

/-- The lines of a probe. -/
def lines (p : Probe) : List Line :=
  [.source p.source p.metadata, .probed p.key, .sizes p.loaded.storedBytes p.loaded.payloadBytes]
    ++ p.loaded.tile.layers.entries.map (fun (name, layer) =>
      .layer name layer.features.size layer.extent layer.version)
    ++ p.outsideLines

end Probe

namespace Json

/-- A point. -/
def ofPoint (p : Point) : Json := record [("x", .whole p.x.toInt), ("y", .whole p.y.toInt)]

/-- An optional id. -/
def ofId (id : Option UInt64) : Json := ofOption (fun id => count id.toNat) id

/-- Metadata; a report without any has no such field. -/
def metadataField (m : Metadata) : List (String × Json) :=
  if m.isEmpty then [] else [("metadata", .object (m.entries.map fun (k, v) => (k, .text v)))]

/-- A point outside the extent, with the id of its feature. -/
def ofOutside (p : OutsidePoint) (f : Feature) : Json :=
  record [("index", count p.index), ("id", ofId f.id), ("point", ofPoint p.point)]

/-- A probe. -/
def ofProbe (p : Probe) : Json :=
  record <| [("source", .text p.source), ("tile", .text p.key.render),
    ("layers", .object (p.loaded.tile.layers.entries.map fun (name, layer) =>
      (name, record [("features", count layer.features.size),
        ("extent", count layer.extent.toNat), ("version", count layer.version.toNat)]))),
    ("outside_extent", .object ((p.loaded.tile.mapOutside ofOutside).map fun (name, points) =>
      (name, .array points)))]
    ++ metadataField p.metadata

end Json

end TileScope
