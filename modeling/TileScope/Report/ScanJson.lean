import TileScope.Report.Probe

/-!
# A scan as JSON

The machine-readable form of a scan: for each tile its status and, if it was scanned, the features
found in full. On demand a scanned tile is given with all of its layers.
-/

namespace TileScope

namespace Json

/-- A property value. Real numbers without a JSON form become `null` when they are printed. -/
def ofProperty : PropertyValue → Json
  | .text s => .text s
  | .double d => .real d
  | .int n => .whole n.toInt
  | .uint n => count n.toNat
  | .bool b => .bool b
  | .null => .null

/-- The coordinates of a geometry: points, rows of points, or integers. -/
def ofCoordinates : Geometry → Json
  | .points ps => .array (ps.map ofPoint)
  | .lines paths => .array (paths.map fun path => .array (path.map ofPoint))
  | .rings paths => .array (paths.map fun path => .array (path.map ofPoint))
  | .raw commands => .array (commands.map fun n => count n.toNat)

/-- A geometry. -/
def ofGeometry (g : Geometry) : Json :=
  record [("type", .text g.kind.name), ("coordinates", ofCoordinates g)]

/-- A feature. -/
def ofFeature (f : Feature) : Json :=
  record [("id", ofId f.id), ("geometry", ofGeometry f.geometry),
    ("properties", .object (f.properties.entries.map fun (k, v) => (k, ofProperty v)))]

/-- A match. -/
def ofMatch (m : Match) : Json :=
  record [("index", count m.index), ("feature", ofFeature m.feature),
    ("point", ofOption ofPoint m.point)]

/-- Matches by layer. -/
def ofMatches (m : LayerMatches) : Json :=
  .object (m.entries.map fun (layer, hits) => (layer, .array (hits.map ofMatch)))

/-- A layer in full. -/
def ofLayer (l : Layer) : Json :=
  record [("version", count l.version.toNat), ("extent", count l.extent.toNat),
    ("features", .array (l.features.toList.map ofFeature))]

/-- The name of an outcome. -/
def statusName : Outcome → String
  | .scanned _ => "scanned"
  | .absent => "not_found"
  | .failed _ => "failed"
  | .skipped => "skipped"

/-- What came of a tile. -/
def ofOutcome (all : Bool) (key : TileKey) (outcome : Outcome) : Json :=
  record <| [("tile", .text key.render), ("status", .text (statusName outcome))] ++
    match outcome with
    | .scanned tile =>
      [("matches", ofMatches tile.found), ("stored_bytes", count tile.storedBytes),
        ("payload_bytes", count tile.payloadBytes)] ++
      if all then
        [("layers", .object (tile.tile.layers.entries.map fun (name, l) => (name, ofLayer l)))]
      else []
    | .failed e => [("error", .text e.message)]
    | _ => []

/-- A scan. -/
def ofReport (all : Bool) (r : Report) : Json :=
  record <| [("source", .text r.source), ("total_matches", count r.totalMatches),
    ("tiles", .array (r.outcomes.entries.map fun (key, outcome) => ofOutcome all key outcome))]
    ++ metadataField r.metadata

end Json

end TileScope
