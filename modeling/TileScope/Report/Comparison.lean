import TileScope.Report.Inspection

/-!
# The report of a comparison

The lines of a scan seen by feature: after the status of every tile, the features that were found
are grouped by label, each with the places where it was found, and the ids that were not found
anywhere follow.
-/

namespace TileScope

namespace Report

/-- Every match with its place, in the order of keys, layers and features. -/
def placements (r : Report) : List Placement :=
  r.found.entries.flatMap fun (key, layers) =>
    layers.entries.flatMap fun (layer, hits) => hits.map fun hit => ⟨key, layer, hit⟩

/-- The placements by label. -/
def groups (r : Report) : OrderedMap String (List Placement) :=
  (OrderedSet.ofList (r.placements.map (·.found.feature.label))).mapTo fun label =>
    r.placements.filter (·.found.feature.label = label)

/-- The ids of a search that label no group. -/
def missingIds (r : Report) (query : Query) : List UInt64 :=
  query.ids.toList.filter fun id => !r.groups.contains s!"#{id.toNat}"

/-- The lines of a comparison. -/
def comparison (r : Report) (query : Query) : List Line :=
  [.source r.source r.metadata, .search query, .blank]
    ++ r.outcomes.entries.map (fun (key, outcome) => .status key outcome)
    ++ [.blank]
    ++ r.groups.entries.flatMap (fun (label, places) =>
      .heading label places.length :: places.map .placement)
    ++ (r.missingIds query).map .missing
    ++ [.blank, r.summary]

end Report

end TileScope
