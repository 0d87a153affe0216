import TileScope.Proofs.Json.Field
import TileScope.Proofs.Ordered.Lookup
import TileScope.Report.ScanJson

/-!
# What is said of a feature

A line of a report says of a feature what it is called, of what kind it is and where it is. A JSON
value says the same in its fields. Here both are told from the feature alone, without the functions
that write them, so that a line and a value can be held against the feature and against each other.

| of a feature | in a line | in JSON |
| --- | --- | --- |
| the id 7 | `#7` | `id` is 7 |
| the name `elm` and no id | `"elm"` | `id` is null, `properties` have the name |
| neither | `(no id)` | `id` is null |
| points | `Point` | `type` of the `geometry` |
| a single point | `(3, -1)` | `point` with `x` and `y` |
| any other geometry | `(5 coordinates)` | `point` is null |

A name stands behind the rest of a line if the feature is called by its id (`Feature.Told`).
-/

namespace TileScope

/-! ## In a line -/

/-- The name of the kind of a geometry. -/
inductive Geometry.OfKind : Geometry → String → Prop
  | points (points : List Point) : OfKind (.points points) "Point"
  | lines (paths : List (List Point)) : OfKind (.lines paths) "LineString"
  | rings (paths : List (List Point)) : OfKind (.rings paths) "Polygon"
  | raw (commands : List UInt32) : OfKind (.raw commands) "Unknown"

/-- Every geometry has the name of its kind. -/
theorem Geometry.ofKind_name (g : Geometry) : g.OfKind g.kind.name := by
  cases g with
  | points points => exact .points points
  | lines paths => exact .lines paths
  | rings paths => exact .rings paths
  | raw commands => exact .raw commands

namespace Feature

variable {f : Feature} {p : Point}

/-- A feature is a single point just if its geometry is one. -/
theorem point_eq_some_iff : f.point = some p ↔ f.geometry = .points [p] := by
  rw [point]
  split
  · next q hgeometry => simp [hgeometry]
  · next hnot => exact iff_of_false nofun (hnot p)

/-- A feature without a point of its own has another geometry. -/
theorem point_eq_none_iff : f.point = none ↔ ∀ p, f.geometry ≠ .points [p] := by
  rw [Option.eq_none_iff_forall_ne_some]
  exact forall_congr' fun p => not_congr point_eq_some_iff

/-- What a feature is called: its id, else its name in quotes. -/
inductive Called (f : Feature) : String → Prop
  | id {id : UInt64} (h : f.id = some id) : Called f s!"#{id.toNat}"
  | name {name : String} (hid : f.id = none) (h : f.name = some name) : Called f s!"\"{name}\""
  | nothing (hid : f.id = none) (h : f.name = none) : Called f "(no id)"

/-- Where a feature is: at its point, or else it has so many coordinates. -/
inductive Placed (f : Feature) : String → Prop
  | point {p : Point} (h : f.geometry = .points [p]) : Placed f s!"({p.x.toInt}, {p.y.toInt})"
  | coordinates (h : ∀ p, f.geometry ≠ .points [p]) :
    Placed f s!"({f.geometry.coordinateCount} coordinates)"

/-- What stands behind the rest: the name of a feature that is called by its id. -/
inductive NamedBehind (f : Feature) : String → Prop
  | name {id : UInt64} {name : String} (hid : f.id = some id) (h : f.name = some name) :
    NamedBehind f s!" \"{name}\""
  | nothing (h : f.id = none ∨ f.name = none) : NamedBehind f ""

/-- What a line says of a feature. -/
inductive Told (f : Feature) : String → Prop
  | told {label kind place name : String} (hlabel : f.Called label)
    (hkind : f.geometry.OfKind kind) (hplace : f.Placed place) (hname : f.NamedBehind name) :
    Told f s!"{label} {kind} {place}{name}"

/-- The label of a feature is what it is called. -/
theorem called_label (f : Feature) : f.Called f.label := by
  rw [label]
  split
  · next hid => exact .id hid
  · next hid hname => exact .name hid hname
  · next hid hname => exact .nothing hid hname

/-- The parts that are told make up what a line says of a feature. -/
theorem told_parts {place text name : String} (hplace : f.Placed place)
    (htext : text = " " ++ place) (hname : f.NamedBehind name) :
    f.Told (f.label ++ " " ++ f.kind.name ++ text ++ name) := by
  rw [htext, ← String.append_assoc]
  exact .told f.called_label f.geometry.ofKind_name hplace hname

/-- A feature in a few words is told by them. -/
theorem told_summary (f : Feature) : f.Told f.summary := by
  have hcount (n : Nat) : s!" ({n} coordinates)" = " " ++ s!"({n} coordinates)" := by
    show " (" ++ toString n ++ " coordinates)" = " " ++ ("(" ++ toString n ++ " coordinates)")
    rw [← String.append_assoc, ← String.append_assoc]
    rfl
  have hunnamed (h : ∀ id name, f.id = some id → f.name = some name → False) :
      f.id = none ∨ f.name = none := by
    cases hid : f.id with
    | none => exact .inl rfl
    | some id => exact .inr (Option.eq_none_iff_forall_ne_some.2 fun name => h id name hid)
  rw [summary]
  split
  · next p hpoint =>
    have hplace := Placed.point (point_eq_some_iff.1 hpoint)
    split
    · next hid hname => exact told_parts hplace rfl (.name hid hname)
    · next hnot => exact told_parts hplace rfl (.nothing (hunnamed hnot))
  · next hpoint =>
    have hplace := Placed.coordinates (point_eq_none_iff.1 hpoint)
    split
    · next hid hname => exact told_parts hplace (hcount _) (.name hid hname)
    · next hnot => exact told_parts hplace (hcount _) (.nothing (hunnamed hnot))

end Feature

/-- Where a match is said to be: at the point of its feature, or else the kind. -/
inductive Feature.Stands (f : Feature) : String → Prop
  | point {p : Point} (h : f.geometry = .points [p]) : Stands f s!"({p.x.toInt}, {p.y.toInt})"
  | kind {kind : String} (h : ∀ p, f.geometry ≠ .points [p]) (hkind : f.geometry.OfKind kind) :
    Stands f kind

/-- What a line says of a place where a match was found: the tile, the layer, and where in it. -/
inductive Placement.Told (p : Placement) : String → Prop
  | told {place : String} (h : p.found.feature.Stands place) :
    Told p s!"{p.key.zoom.toNat}/{p.key.x.toNat}/{p.key.y.toNat} [{p.layer}] {place}"

/-- A placement in a few words is told by them. -/
theorem Placement.told_text (p : Placement) : p.Told p.text := by
  have htext {place : String} (h : p.found.feature.Stands place) :
      p.Told s!"{p.key} [{p.layer}] {place}" := .told h
  rw [text, Match.point]
  cases hpoint : p.found.feature.point with
  | some q => exact htext (.point (Feature.point_eq_some_iff.1 hpoint))
  | none =>
    exact htext (.kind (Feature.point_eq_none_iff.1 hpoint) p.found.feature.geometry.ofKind_name)

/-! ## In JSON -/

namespace Json

/-- The value is a point. -/
structure IsPoint (v : Json) (p : Point) : Prop where
  names : v.fields.map (·.1) = ["x", "y"]
  x : v.field? "x" = some (.whole p.x.toInt)
  y : v.field? "y" = some (.whole p.y.toInt)

/-- The value is an id, or says that there is none. -/
inductive IsId : Json → Option UInt64 → Prop
  | id (id : UInt64) : IsId (.whole id.toNat) (some id)
  | null : IsId .null none

/-- The value is the point of a feature, or says that it is not at one. -/
inductive IsPlace : Json → Feature → Prop
  | point {v : Json} {f : Feature} {p : Point} (h : f.geometry = .points [p]) (hv : v.IsPoint p) :
    IsPlace v f
  | null {f : Feature} (h : ∀ p, f.geometry ≠ .points [p]) : IsPlace .null f

/-- The value is a path: its points in order. -/
inductive IsPath : Json → List Point → Prop
  | array {items : List Json} {path : List Point} (h : List.Forall₂ IsPoint items path) :
    IsPath (.array items) path

/-- The value is the coordinates of a geometry, in order. -/
inductive IsCoordinates : Json → Geometry → Prop
  | points {v : Json} {points : List Point} (h : v.IsPath points) : IsCoordinates v (.points points)
  | lines {items : List Json} {paths : List (List Point)} (h : List.Forall₂ IsPath items paths) :
    IsCoordinates (.array items) (.lines paths)
  | rings {items : List Json} {paths : List (List Point)} (h : List.Forall₂ IsPath items paths) :
    IsCoordinates (.array items) (.rings paths)
  | raw (commands : List UInt32) :
    IsCoordinates (.array (commands.map fun n => .whole n.toNat)) (.raw commands)

/-- The value is a geometry: its kind and its coordinates. -/
structure IsGeometry (v : Json) (g : Geometry) : Prop where
  names : v.fields.map (·.1) = ["coordinates", "type"]
  kind : ∃ kind, g.OfKind kind ∧ v.field? "type" = some (.text kind)
  coordinates : ∃ c, v.field? "coordinates" = some c ∧ c.IsCoordinates g

/-- The value shows a feature: its id, its geometry and its properties, the name among them. -/
structure ShowsFeature (v : Json) (f : Feature) : Prop where
  names : v.fields.map (·.1) = ["geometry", "id", "properties"]
  id : ∃ i, v.field? "id" = some i ∧ i.IsId f.id
  geometry : ∃ g, v.field? "geometry" = some g ∧ g.IsGeometry f.geometry
  name : ∃ properties, v.field? "properties" = some properties ∧
    ∀ name, properties.field? "name" = some (.text name) ↔ f.name = some name

/-- The value shows a match: the place in the layer, the feature, and the point of the feature. -/
structure ShowsMatch (v : Json) (m : Match) : Prop where
  names : v.fields.map (·.1) = ["feature", "index", "point"]
  index : v.field? "index" = some (.whole m.index)
  feature : ∃ f, v.field? "feature" = some f ∧ f.ShowsFeature m.feature
  point : ∃ p, v.field? "point" = some p ∧ p.IsPlace m.feature

/-- The value shows a point outside the extent: the place of its feature in the layer, the id of the
feature, and the point. -/
structure ShowsOutside (v : Json) (p : OutsidePoint) (f : Feature) : Prop where
  names : v.fields.map (·.1) = ["id", "index", "point"]
  index : v.field? "index" = some (.whole p.index)
  id : ∃ i, v.field? "id" = some i ∧ i.IsId f.id
  point : ∃ c, v.field? "point" = some c ∧ c.IsPoint p.point

/-- A point is written as one. -/
theorem isPoint_ofPoint (p : Point) : (ofPoint p).IsPoint p where
  names := names_record (.refl _) (by decide)
  x := field?_record_of_mem (by simp) (by simp)
  y := field?_record_of_mem (by simp) (by simp)

/-- An id is written as one, and so is that there is none. -/
theorem isId_ofId (id : Option UInt64) : (ofId id).IsId id := by
  cases id with
  | none => exact .null
  | some id => exact .id id

/-- A point outside the extent is shown by what is written for it. -/
theorem showsOutside_ofOutside (p : OutsidePoint) (f : Feature) :
    (ofOutside p f).ShowsOutside p f where
  names := names_record (.swap _ _ _) (by decide)
  index := field?_record_of_mem (by simp) (by simp [count])
  id := ⟨ofId f.id, field?_record_of_mem (by simp) (by simp), isId_ofId f.id⟩
  point := ⟨ofPoint p.point, field?_record_of_mem (by simp) (by simp), isPoint_ofPoint p.point⟩

/-- The place of a feature is written as its point, if it is one. -/
theorem isPlace_ofPoint (f : Feature) : (ofOption ofPoint f.point).IsPlace f := by
  cases hpoint : f.point with
  | some p => exact .point (Feature.point_eq_some_iff.1 hpoint) (isPoint_ofPoint p)
  | none => exact .null (Feature.point_eq_none_iff.1 hpoint)

/-- A path is written as its points. -/
theorem isPath_map (path : List Point) : (array (path.map ofPoint)).IsPath path :=
  .array (List.forall₂_map_left_iff.2 (List.forall₂_same.2 fun p _ => isPoint_ofPoint p))

/-- Paths are written one by one. -/
theorem forall₂_isPath (paths : List (List Point)) :
    List.Forall₂ IsPath (paths.map fun path => array (path.map ofPoint)) paths :=
  List.forall₂_map_left_iff.2 (List.forall₂_same.2 fun path _ => isPath_map path)

/-- The coordinates of a geometry are written in order. -/
theorem isCoordinates_ofCoordinates (g : Geometry) : (ofCoordinates g).IsCoordinates g := by
  cases g with
  | points points => exact .points (isPath_map points)
  | lines paths => exact .lines (forall₂_isPath paths)
  | rings paths => exact .rings (forall₂_isPath paths)
  | raw commands => exact .raw commands

/-- A geometry is written with its kind and its coordinates. -/
theorem isGeometry_ofGeometry (g : Geometry) : (ofGeometry g).IsGeometry g where
  names := names_record (.swap _ _ _) (by decide)
  kind := ⟨g.kind.name, g.ofKind_name, field?_record_of_mem (by simp) (by simp)⟩
  coordinates := ⟨ofCoordinates g, field?_record_of_mem (by simp) (by simp),
    isCoordinates_ofCoordinates g⟩

/-- The name of a feature is the text of its property, in JSON too. -/
theorem name_ofFeature (f : Feature) (name : String) :
    (object (f.properties.entries.map fun (k, v) => (k, ofProperty v))).field? "name"
      = some (.text name) ↔ f.name = some name := by
  have hnodup : ((f.properties.entries.map fun (k, v) => (k, ofProperty v)).map (·.1)).Nodup := by
    rw [List.map_map]
    exact f.properties.nodup_keys
  have hvalue {v : PropertyValue} : ofProperty v = .text name ↔ v = .text name := by
    cases v <;> simp [ofProperty, count]
  rw [field?_object_eq_some_iff hnodup, List.mem_map]
  constructor
  · rintro ⟨⟨key, v⟩, he, hpair⟩
    obtain ⟨rfl, hv⟩ := Prod.mk.inj hpair
    rw [Feature.name, OrderedMap.get?_eq_some_iff.2 he, hvalue.1 hv]
  · intro hname
    have hget : f.properties.get? "name" = some (.text name) := by
      rw [Feature.name] at hname
      split at hname
      · next s hget => rw [hget, Option.some.inj hname]
      · cases hname
    exact ⟨("name", .text name), OrderedMap.get?_eq_some_iff.1 hget, rfl⟩

/-- A feature is shown by what is written for it. -/
theorem showsFeature_ofFeature (f : Feature) : (ofFeature f).ShowsFeature f where
  names := names_record (.swap _ _ _) (by decide)
  id := ⟨ofId f.id, field?_record_of_mem (by simp) (by simp), isId_ofId f.id⟩
  geometry := ⟨ofGeometry f.geometry, field?_record_of_mem (by simp) (by simp),
    isGeometry_ofGeometry f.geometry⟩
  name := ⟨_, field?_record_of_mem (by simp) (by simp), name_ofFeature f⟩

/-- A match is shown by what is written for it. -/
theorem showsMatch_ofMatch (m : Match) : (ofMatch m).ShowsMatch m where
  names := names_record (.swap _ _ _) (by decide)
  index := field?_record_of_mem (by simp) (by simp [count])
  feature := ⟨ofFeature m.feature, field?_record_of_mem (by simp) (by simp),
    showsFeature_ofFeature m.feature⟩
  point := ⟨ofOption ofPoint m.point, field?_record_of_mem (by simp) (by simp),
    isPlace_ofPoint m.feature⟩

end Json

end TileScope
