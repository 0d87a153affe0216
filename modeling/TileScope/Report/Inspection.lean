import TileScope.Report.Line

/-!
# The report of an inspection

The lines of a scan: the source, the search, and for each tile its status and the features found
in it, in the order of keys, layers and features. On demand each scanned tile is followed by all
of its layers with all points of point features, those of the features found being marked. The
last line counts.
-/

namespace TileScope

namespace Report

/-- The counts of a report. -/
def summary (r : Report) : Line :=
  .summary r.totalMatches r.scanned.size r.absent.length r.failures.size

end Report

/-- The features found in a tile, a line each. -/
def LayerMatches.lines (m : LayerMatches) : List Line :=
  m.entries.flatMap fun (layer, hits) => hits.map fun hit => .hit layer hit.feature

/-- All points of a layer, a line each; `marked` are the places of the features found. -/
def Layer.pointLines (l : Layer) (marked : List Nat) : List Line :=
  l.features.toList.zipIdx.flatMap fun (f, i) =>
    f.geometry.pointList.map fun p => .point (marked.contains i) p f

/-- All layers of a tile with all their points. -/
def Tile.contextLines (t : Tile) (found : LayerMatches) : List Line :=
  t.layers.entries.flatMap fun (name, layer) =>
    .context name layer.features.size layer.extent ::
      layer.pointLines (((found.get? name).getD []).map (·.index))

/-- The lines about one tile. -/
def Outcome.lines (all : Bool) (key : TileKey) (outcome : Outcome) : List Line :=
  .status key outcome ::
    match outcome with
    | .scanned tile =>
      LayerMatches.lines tile.found ++
        if all then tile.tile.contextLines tile.found else []
    | _ => []

/-- The lines of an inspection. -/
def Report.inspection (r : Report) (query : Query) (all : Bool) : List Line :=
  [.source r.source r.metadata, .search query, .blank]
    ++ r.outcomes.entries.flatMap (fun (key, outcome) => outcome.lines all key)
    ++ [.blank, r.summary]

end TileScope
