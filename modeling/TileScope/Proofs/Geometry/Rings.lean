import TileScope.Proofs.Geometry.Exact
import TileScope.Proofs.Tile.Origin

/-!
# Closed rings

A ring is closed if its last vertex is its first one again. Rings come out of drawing as the paths
that the pen went through, and only a close puts the first vertex behind a path:

| the path ends with | the ring |
| --- | --- |
| a close | closed |
| the next move, or the end of the row | as the pen went; closed if it came back to its start |

So no ring is empty, and a ring is closed just if a close ended it or the pen came back by itself
(`Tile.isClosed_ring_iff`).
-/

namespace TileScope

/-- The last vertex of a ring is its first one. -/
def IsClosed (ring : List Point) : Prop := ring.getLast? = ring.head?

instance (ring : List Point) : Decidable (IsClosed ring) := inferInstanceAs (Decidable (_ = _))

/-- A part as it is drawn: the vertices that the pen goes through, and whether a close ends it. -/
structure DrawnPath where
  vertices : List Point
  closed : Bool
deriving DecidableEq, Repr

namespace DrawnPath

/-- The part of a path: behind a close its first vertex stands again. -/
def part (p : DrawnPath) : List Point :=
  if p.closed then p.vertices ++ p.vertices.head?.toList else p.vertices

/-- A path closes if a close ends it or the pen comes back to its first vertex. -/
def Closes (p : DrawnPath) : Prop := p.closed = true ∨ IsClosed p.vertices

instance (p : DrawnPath) : Decidable p.Closes := inferInstanceAs (Decidable (_ ∨ _))

/-- The part of a path is closed if the path closes. -/
theorem isClosed_part_iff (p : DrawnPath) : IsClosed p.part ↔ p.Closes := by
  obtain ⟨vertices, closed⟩ := p
  cases closed with
  | false => simp [Closes, part]
  | true =>
    refine ⟨fun _ => .inl rfl, fun _ => ?_⟩
    cases vertices with
    | nil => rfl
    | cons v vs =>
      show ((v :: vs) ++ [v]).getLast? = some v
      rw [List.getLast?_concat]

/-- A path with a vertex has a part with one. -/
theorem part_ne_nil {p : DrawnPath} (h : p.vertices ≠ []) : p.part ≠ [] := by
  rw [part]
  split
  · exact List.append_ne_nil_of_left_ne_nil h _
  · exact h

end DrawnPath

namespace Stroke

/-- How the part that is open in front of some strokes goes on. -/
def onward : List Stroke → DrawnPath
  | extend vertex :: strokes => ⟨vertex :: (onward strokes).vertices, (onward strokes).closed⟩
  | close :: _ => ⟨[], true⟩
  | _ => ⟨[], false⟩

/-- The paths that strokes make up, one for each vertex that begins a part. -/
def paths : List Stroke → List DrawnPath
  | [] => []
  | start vertex :: strokes =>
    ⟨vertex :: (onward strokes).vertices, (onward strokes).closed⟩ :: paths strokes
  | _ :: strokes => paths strokes

/-- The open part goes on with its vertices, and its first one again behind a close. -/
theorem continued_eq (first : Point) (strokes : List Stroke) : continued first strokes
    = (onward strokes).vertices ++ if (onward strokes).closed then [first] else [] := by
  fun_induction continued first strokes with
  | case1 vertex strokes ih => rw [ih, onward, List.cons_append]
  | case2 => rfl
  | case3 strokes hextend hclose =>
    have honward : onward strokes = ⟨[], false⟩ := by
      cases strokes with
      | nil => rfl
      | cons stroke strokes =>
        cases stroke with
        | start vertex => rfl
        | extend vertex => exact absurd rfl (hextend vertex strokes)
        | close => exact absurd rfl (hclose strokes)
    rw [honward]
    rfl

/-- Parts are paths, closed where a close ended them. -/
theorem parts_eq_map_paths (strokes : List Stroke) :
    parts strokes = (paths strokes).map DrawnPath.part := by
  fun_induction parts strokes with
  | case1 => rfl
  | case2 vertex strokes ih =>
    rw [paths, List.map_cons, ih, continued_eq, DrawnPath.part]
    cases (onward strokes).closed <;> simp
  | case3 stroke strokes hstart ih =>
    rw [ih]
    cases stroke with
    | start vertex => exact absurd rfl (hstart vertex)
    | extend vertex => rfl
    | close => rfl

/-- Every path has a vertex. -/
theorem vertices_ne_nil {strokes : List Stroke} {p : DrawnPath} (h : p ∈ paths strokes) :
    p.vertices ≠ [] := by
  fun_induction paths strokes with
  | case1 => cases h
  | case2 vertex strokes ih =>
    rcases h with _ | ⟨_, h⟩
    · exact List.cons_ne_nil _ _
    · exact ih h
  | case3 stroke strokes hstart ih => exact ih h

end Stroke

/-- The paths of a row of commands. -/
def drawnPaths (commands : List DrawCommand) : List DrawnPath :=
  Stroke.paths (Stroke.ofCommands commands (vertexList (commands.flatMap DrawCommand.codes)))

section Rings

variable {rings : List (List Point)}

/-- Rings that were drawn are paths of permitted commands. -/
theorem exists_drawnPaths {s : List UInt32} (h : drawGeometry .polygon s = .ok (.rings rings)) :
    ∃ commands, Drawable .polygon s commands ∧
      rings = (drawnPaths commands).map DrawnPath.part := by
  obtain ⟨commands, hdrawable, hdrawn⟩ := drawGeometry_eq_ok_iff.1 h
  refine ⟨commands, hdrawable, ?_⟩
  rw [drawnPaths, ← Stroke.parts_eq_map_paths]
  exact Geometry.rings.inj hdrawn

/-- Rings are drawn of polygons only. -/
theorem shape_of_rings {s : List UInt32} {shape : Shape}
    (h : drawGeometry shape s = .ok (.rings rings)) : shape = .polygon := by
  obtain ⟨commands, -, hdrawn⟩ := drawGeometry_eq_ok_iff.1 h
  cases shape <;> [cases hdrawn; cases hdrawn; rfl]

end Rings

/-- **When a ring is closed.** For every payload that decodes, and every feature of the tile whose
geometry is rings: no ring is empty; the feature comes from a message whose integers are permitted
commands; the rings are the paths of those commands in order, and a ring is closed just if a close
ended its path or the pen came back to the first vertex of it. -/
theorem Tile.isClosed_ring_iff {b : List UInt8} {t : Tile} (h : Tile.decode b = .ok t)
    {layer : String} {m : Match} (hhas : t.Has layer m) {rings : List (List Point)}
    (hrings : m.feature.geometry = .rings rings) :
    (∀ ring ∈ rings, ring ≠ []) ∧
    ∃ l f commands, HoldsFeature b l m.index f ∧ l.name = layer ∧ f.shape? = some .polygon ∧
      Drawable .polygon f.geometry.toList commands ∧
      rings = (drawnPaths commands).map DrawnPath.part ∧
      (∀ path ∈ drawnPaths commands, IsClosed path.part ↔ path.Closes) ∧
      ((∀ ring ∈ rings, IsClosed ring) ↔ ∀ path ∈ drawnPaths commands, path.Closes) := by
  obtain ⟨l, f, hholds, hname, hf⟩ := Tile.exists_message h hhas
  cases hshape : f.shape? with
  | none =>
    rw [LayerMessage.geometry_of_feature hf hshape] at hrings
    cases hrings
  | some shape =>
    have hdrawn := LayerMessage.drawGeometry_of_feature hf hshape
    rw [hrings] at hdrawn
    obtain rfl := shape_of_rings hdrawn
    obtain ⟨commands, hdrawable, rfl⟩ := exists_drawnPaths hdrawn
    refine ⟨fun ring hring => ?_, l, f, commands, hholds, hname, hshape, hdrawable, rfl,
      fun path _ => path.isClosed_part_iff, ?_⟩
    · obtain ⟨path, hpath, rfl⟩ := List.mem_map.1 hring
      exact DrawnPath.part_ne_nil (Stroke.vertices_ne_nil hpath)
    · simp only [List.forall_mem_map, DrawnPath.isClosed_part_iff]

/-- A ring that a close ended, and one whose pen came back to its first vertex. -/
theorem Tile.isClosed_ring_iff_twoRings :
    let b : List UInt8 := [0x1a, 0x1a, 0x0a, 0x01, 0x61, 0x12, 0x13, 0x18, 0x03, 0x22, 0x0f, 0x09,
      0x00, 0x00, 0x0a, 0x14, 0x00, 0x0f, 0x09, 0x04, 0x04, 0x12, 0x02, 0x00, 0x01, 0x00, 0x78,
      0x02]
    let rings : List (List Point) :=
      [[⟨0, 0⟩, ⟨10, 0⟩, ⟨0, 0⟩], [⟨12, 2⟩, ⟨13, 2⟩, ⟨12, 2⟩]]
    let feature : Feature := ⟨none, .rings rings, .empty⟩
    let t : Tile := ⟨.ofList [("a", ⟨2, 4096, #[feature]⟩)]⟩
    Tile.decode b = .ok t ∧ t.Has "a" ⟨0, feature⟩ ∧ (∀ ring ∈ rings, ring ≠ []) ∧
      ∃ commands, rings = (drawnPaths commands).map DrawnPath.part ∧
        ∀ path ∈ drawnPaths commands, path.Closes := by
  intro b rings feature t
  have hdecode : Tile.decode b = .ok t := by cbv
  have hhas : t.Has "a" ⟨0, feature⟩ := ⟨⟨2, 4096, #[feature]⟩, by decide +kernel, rfl⟩
  obtain ⟨hne, -, -, commands, -, -, -, -, hparts, -, hall⟩ :=
    Tile.isClosed_ring_iff hdecode hhas rfl
  exact ⟨hdecode, hhas, hne, commands, hparts, hall.1 (by decide)⟩

/-- A ring without a close is left open: its last vertex is not its first one. -/
theorem Tile.not_isClosed_withoutClose :
    let b : List UInt8 := [0x1a, 0x13, 0x0a, 0x01, 0x61, 0x12, 0x0c, 0x18, 0x03, 0x22, 0x08, 0x09,
      0x00, 0x00, 0x12, 0x14, 0x00, 0x00, 0x14, 0x78, 0x02]
    let ring : List Point := [⟨0, 0⟩, ⟨10, 0⟩, ⟨10, 10⟩]
    let feature : Feature := ⟨none, .rings [ring], .empty⟩
    let t : Tile := ⟨.ofList [("a", ⟨2, 4096, #[feature]⟩)]⟩
    Tile.decode b = .ok t ∧ t.Has "a" ⟨0, feature⟩ ∧ ¬IsClosed ring := by
  intro b ring feature t
  exact ⟨by cbv, ⟨⟨2, 4096, #[feature]⟩, by decide +kernel, rfl⟩, by decide⟩

end TileScope
