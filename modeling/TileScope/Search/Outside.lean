import TileScope.Tile.Basic

/-!
# Points outside the extent

A layer's own square goes from zero up to, and not including, its extent. Tiles with a buffer hold
points outside it; a list of them tells such points apart from mistakes.

A point is listed with the place of its feature. Whoever shows it goes back to the feature, by the
name of the layer and that place (`Tile.mapOutside?`), which never leads nowhere
(`Tile.isSome_mapOutside?`).
-/

namespace TileScope

/-- A point outside the extent, with the place of its feature in the layer. -/
structure OutsidePoint where
  index : Nat
  point : Point
deriving DecidableEq, Repr

/-- The points of point features outside the layer's extent, by feature and then in order. -/
def Layer.outside (l : Layer) : List OutsidePoint :=
  l.features.toList.zipIdx.flatMap fun (f, i) =>
    (f.geometry.pointList.filter fun p => !p.isWithin l.extent).map fun p => ⟨i, p⟩

/-- A point outside belongs to a feature of the layer. -/
theorem Layer.exists_feature_of_outside {l : Layer} {p : OutsidePoint} (h : p ∈ l.outside) :
    ∃ f, l.features[p.index]? = some f := by
  rw [outside, List.mem_flatMap] at h
  obtain ⟨⟨f, i⟩, hmem, h⟩ := h
  obtain ⟨c, -, rfl⟩ := List.mem_map.1 h
  rw [List.mem_zipIdx_iff_getElem?, Array.getElem?_toList] at hmem
  exact ⟨f, hmem⟩

/-- If every element has a result, so has the list. -/
theorem isSome_mapM {α β : Type} {f : α → Option β} {l : List α} (h : ∀ a ∈ l, (f a).isSome) :
    (l.mapM f).isSome := by
  induction l with
  | nil => rfl
  | cons a l ih =>
    obtain ⟨b, hb⟩ := Option.isSome_iff_exists.1 (h a List.mem_cons_self)
    obtain ⟨bs, hbs⟩ := Option.isSome_iff_exists.1 (ih fun a ha => h a (List.mem_cons_of_mem _ ha))
    rw [List.mapM_cons, hb, hbs]
    rfl

namespace Tile

/-- The points outside by layer; layers without one are left out. -/
def outside (t : Tile) : OrderedMap String (List OutsidePoint) :=
  t.layers.mapEntries fun _ l =>
    match l.outside with
    | [] => none
    | points => some points

/-- The layers with points outside are listed, each with its points, and no other one. -/
theorem get?_outside {t : Tile} {name : String} {points : List OutsidePoint} :
    t.outside.get? name = some points ↔
      ∃ l, t.layers.get? name = some l ∧ l.outside = points ∧ points ≠ [] := by
  rw [outside, OrderedMap.get?_mapEntries, Option.bind_eq_some_iff]
  refine exists_congr fun l => and_congr_right fun _ => ?_
  cases l.outside with
  | nil => simp +contextual [eq_comm]
  | cons p rest =>
    constructor
    · rintro ⟨⟩
      exact ⟨rfl, List.cons_ne_nil _ _⟩
    · rintro ⟨rfl, -⟩
      rfl

/-- What a function gives for each point outside and its feature, by layer. The feature is the one
at the point's place in the layer of the name. -/
def mapOutside? {β : Type} (t : Tile) (f : OutsidePoint → Feature → β) :
    Option (List (String × List β)) :=
  t.outside.entries.mapM fun (name, points) => do
    let layer ← t.layers.get? name
    let shown ← points.mapM fun p => layer.features[p.index]?.map (f p)
    return (name, shown)

/-- For every point listed its feature is found. -/
theorem isSome_mapOutside? {β : Type} (t : Tile) (f : OutsidePoint → Feature → β) :
    (t.mapOutside? f).isSome := by
  refine isSome_mapM fun ⟨name, points⟩ h => ?_
  obtain ⟨l, hl, rfl, -⟩ := get?_outside.1 (OrderedMap.get?_eq_some_iff.2 h)
  have hshown : (l.outside.mapM fun p => l.features[p.index]?.map (f p)).isSome :=
    isSome_mapM fun p hp => by
      obtain ⟨g, hg⟩ := Layer.exists_feature_of_outside hp
      rw [hg]
      rfl
  obtain ⟨shown, hshown⟩ := Option.isSome_iff_exists.1 hshown
  dsimp only
  rw [hl, Option.bind_eq_bind, Option.bind_some, hshown]
  rfl

/-- The same, without a way to fail. -/
def mapOutside {β : Type} (t : Tile) (f : OutsidePoint → Feature → β) : List (String × List β) :=
  (t.mapOutside? f).get (t.isSome_mapOutside? f)

end Tile

end TileScope
