import TileScope.Proofs.Search.Matching

/-!
# Where points stand

The coordinates of the point features of a layer, each with its place (`Spot`) and its feature, by
feature and then in the order of the geometry (`Layer.pairwise_spotted`). They are all there, and
nothing else is (`Layer.mem_spotted`).
-/

namespace TileScope

/-- Where a coordinate stands: the place of its feature in the layer, and its own place in the
feature's geometry. -/
structure Spot where
  feature : Nat
  place : Nat
  point : Point

/-- By feature, and then in the order of the geometry. -/
def Spot.Before (a b : Spot) : Prop :=
  a.feature < b.feature ∨ a.feature = b.feature ∧ a.place < b.place

/-- Only points have points listed, each at its place. -/
theorem Geometry.getElem?_pointList {g : Geometry} {i : Nat} {c : Point} :
    g.pointList[i]? = some c ↔ ∃ points, g = .points points ∧ points[i]? = some c := by
  cases g <;> simp [pointList]

namespace Layer

/-- The coordinates of the point features, where they stand, with their features. -/
def spotted (l : Layer) : List (Spot × Feature) :=
  l.features.toList.zipIdx.flatMap fun (f, i) =>
    f.geometry.pointList.zipIdx.map fun (p, j) => (⟨i, j, p⟩, f)

variable {l : Layer}

/-- The coordinates listed are those of the point features, at their places. -/
theorem mem_spotted {s : Spot} {f : Feature} : (s, f) ∈ l.spotted ↔
    l.features[s.feature]? = some f ∧
      ∃ points, f.geometry = .points points ∧ points[s.place]? = some s.point := by
  simp only [spotted, List.mem_flatMap, List.mem_map, Prod.exists, List.mem_zipIdx_iff_getElem?,
    Array.getElem?_toList, Prod.mk.injEq, ← Geometry.getElem?_pointList]
  constructor
  · rintro ⟨f, i, hf, p, j, hp, rfl, rfl⟩
    exact ⟨hf, hp⟩
  · rintro ⟨hf, hp⟩
    exact ⟨f, s.feature, hf, s.point, s.place, hp, rfl, rfl⟩

/-- The coordinates listed stand by feature and then by place. -/
theorem pairwise_spotted (l : Layer) : (l.spotted.map Prod.fst).Pairwise Spot.Before := by
  rw [List.pairwise_map, spotted, List.pairwise_flatMap]
  -- Spots of one feature are apart by their own places, those of two by the features' places.
  constructor
  · rintro ⟨f, i⟩ -
    exact List.pairwise_map.2 ((pairwise_zipIdx _).imp fun hab => .inr ⟨rfl, hab⟩)
  · refine (pairwise_zipIdx _).imp fun hab a ha b hb => ?_
    obtain ⟨x, -, rfl⟩ := List.mem_map.1 ha
    obtain ⟨y, -, rfl⟩ := List.mem_map.1 hb
    exact .inl hab

end Layer

end TileScope
