import TileScope.Scan.Basic

/-!
# Lines of a report

Text reports are rows of lines. A line is kept as what it says, so that a report can be looked at
without its text; `Line.text` is the only place where the wording stands.
-/

namespace TileScope

/-- What a feature is called: its id, else its name in quotes. -/
def Feature.label (f : Feature) : String :=
  match f.id, f.name with
  | some id, _ => s!"#{id.toNat}"
  | none, some name => s!"\"{name}\""
  | none, none => "(no id)"

/-- A feature in a few words: label, kind, place, and the name if the label is the id. -/
def Feature.summary (f : Feature) : String :=
  let place := match f.point with
    | some p => s!" {p}"
    | none => s!" ({f.geometry.coordinateCount} coordinates)"
  let name := match f.id, f.name with
    | some _, some name => s!" \"{name}\""
    | _, _ => ""
  f.label ++ " " ++ f.kind.name ++ place ++ name

/-- Where a match was found. -/
structure Placement where
  key : TileKey
  layer : String
  found : Match
deriving DecidableEq

/-- A placement in a few words: tile, layer, and the position or else the kind. -/
def Placement.text (p : Placement) : String :=
  let place := match p.found.point with
    | some point => point.render
    | none => p.found.feature.kind.name
  s!"{p.key} [{p.layer}] {place}"

/-- A line of a text report. -/
inductive Line where
  | source (source : String) (metadata : Metadata)
  | search (query : Query)
  | blank
  /-- What came of a tile. -/
  | status (key : TileKey) (outcome : Outcome)
  /-- A feature that was found in the tile above. -/
  | hit (layer : String) (feature : Feature)
  /-- A layer of the tile above, found or not. -/
  | context (layer : String) (features : Nat) (extent : UInt32)
  /-- A point of the layer above, marked when its feature was found. -/
  | point (marked : Bool) (point : Point) (feature : Feature)
  /-- A label and the number of places below it. -/
  | heading (label : String) (places : Nat)
  | placement (placement : Placement)
  /-- An id that was looked for in vain. -/
  | missing (id : UInt64)
  | summary (found scanned absent failed : Nat)
  | probed (key : TileKey)
  | sizes (stored payload : Nat)
  | layer (name : String) (features : Nat) (extent version : UInt32)
  | noneOutside
  | outsideCount (layer : String) (points : Nat)
  /-- A point of the layer above, with its feature. -/
  | outside (point : Point) (feature : Feature)

/-- The metadata that a report shows next to its source. -/
def headerNames : List String := ["name", "format"]

/-- The text of a line. -/
def Line.text : Line → String
  | .source name metadata =>
    match headerNames.filterMap fun n => (metadata.get? n).map fun v => s!"{n} {v}" with
    | [] => s!"Source: {name}"
    | details =>
      let joined := ", ".intercalate details
      s!"Source: {name} ({joined})"
  | .search query => s!"Search: {query.describe}"
  | .blank => ""
  | .status key outcome => s!"{key}  {outcome.status}"
  | .hit name f => s!"  [{name}] {f.summary}"
  | .context name features extent => s!"  {name}: {features} features, extent {extent.toNat}"
  | .point marked p f => "   " ++ (if marked then "*" else " ") ++ s!" {p}  {f.label}"
  | .heading label places => s!"{label} seen in {places} tile(s):"
  | .placement p => s!"  {p.text}"
  | .missing id => s!"#{id.toNat} not found in any scanned tile"
  | .summary found scanned absent failed =>
    let noun := if found = 1 then "match" else "matches"
    s!"{found} {noun} in {scanned} tile(s); {absent} absent, {failed} unavailable"
  | .probed key => s!"Tile {key}"
  | .sizes stored payload => s!"  payload: {stored} bytes stored, {payload} bytes decoded"
  | .layer name features extent version =>
    s!"  layer {name}: {features} features, extent {extent.toNat}, version {version.toNat}"
  | .noneOutside => "No points outside the layer extent"
  | .outsideCount name points => s!"{name}: {points} point(s) outside the extent"
  | .outside p f => s!"  {p}  {f.summary}"

/-- The text of a report, every line with its end. -/
def Line.textOf (lines : List Line) : String := String.join (lines.map fun l => l.text ++ "\n")

end TileScope
