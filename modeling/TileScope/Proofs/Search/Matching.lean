import TileScope.Proofs.Ordered.Lookup
import TileScope.Search.Query

/-!
# What a search lists

A search lists a feature just if the feature stands at its place in a layer that is looked at and
passes the test (`Tile.lists_collect`). The places in a layer's list are enough to find its features
again (`Layer.filterMap_matching`), and no layer is listed without a feature (`Tile.get?_collect`).
-/

namespace TileScope

/-- A feature stands at a place of a layer. -/
def Tile.Has (t : Tile) (layer : String) (m : Match) : Prop :=
  ∃ l, t.layers.get? layer = some l ∧ l.features[m.index]? = some m.feature

/-- A feature is listed under a layer. -/
def LayerMatches.Lists (found : LayerMatches) (layer : String) (m : Match) : Prop :=
  ∃ hits, found.get? layer = some hits ∧ m ∈ hits

namespace Layer

variable {l : Layer} {test : Feature → Bool}

/-- The matches of a test in a layer are the features that pass it, with their places. -/
theorem mem_matching {m : Match} :
    m ∈ l.matching test ↔ l.features[m.index]? = some m.feature ∧ test m.feature = true := by
  rw [matching, List.mem_filterMap]
  constructor
  · rintro ⟨⟨f, i⟩, hmem, h⟩
    rw [List.mem_zipIdx_iff_getElem?, Array.getElem?_toList] at hmem
    dsimp only at h
    split at h
    · next htest =>
      obtain rfl := Option.some.inj h
      exact ⟨hmem, htest⟩
    · cases h
  · rintro ⟨hplace, htest⟩
    refine ⟨(m.feature, m.index), ?_, if_pos htest⟩
    rw [List.mem_zipIdx_iff_getElem?, Array.getElem?_toList]
    exact hplace

/-- Places are listed in order. -/
theorem pairwise_index_matching (l : Layer) (test : Feature → Bool) :
    ((l.matching test).map (·.index)).Pairwise (· < ·) := by
  refine List.pairwise_map.2 ((pairwise_zipIdx _).filterMap _ fun a b hab m ha n hb => ?_)
  obtain ⟨-, rfl⟩ := (Option.ite_none_right_eq_some.1 ha).imp_right Option.some.inj
  obtain ⟨-, rfl⟩ := (Option.ite_none_right_eq_some.1 hb).imp_right Option.some.inj
  exact hab

/-- No place is listed twice. -/
theorem nodup_matching (l : Layer) (test : Feature → Bool) : (l.matching test).Nodup :=
  List.Nodup.of_map _ ((pairwise_index_matching l test).imp fun h => Nat.ne_of_lt h)

/-- The places of what was found lead back to what was found. -/
theorem filterMap_matching (l : Layer) (test : Feature → Bool) :
    ((l.matching test).map (·.index)).filterMap
      (fun i => l.features[i]?.map fun f => (⟨i, f⟩ : Match)) = l.matching test := by
  have hback : ∀ m ∈ l.matching test,
      (l.features[m.index]?.map fun f => (⟨m.index, f⟩ : Match)) = some m := fun m hm => by
    rw [(mem_matching.1 hm).1]
    rfl
  rw [List.filterMap_map]
  exact (List.filterMap_congr hback).trans List.filterMap_some

end Layer

namespace Tile

variable {t : Tile} {layer : String} {only : Option String} {test : Feature → Bool}

/-- What is listed under a layer: what the layer has that passes the test. -/
theorem get?_collect {hits : List Match} : (t.collect only test).get? layer = some hits ↔
    ∃ l, t.layers.get? layer = some l ∧ only.all (· = layer) = true ∧
      l.matching test = hits ∧ hits ≠ [] := by
  rw [collect, OrderedMap.get?_mapEntries, Option.bind_eq_some_iff]
  refine exists_congr fun l => and_congr_right fun _ => ?_
  by_cases honly : only.all (· = layer) = true
  · rw [if_pos honly, and_iff_right honly]
    cases hmatching : l.matching test with
    | nil => simp +contextual [eq_comm]
    | cons m rest =>
      constructor
      · rintro ⟨⟩
        exact ⟨rfl, List.cons_ne_nil _ _⟩
      · rintro ⟨rfl, -⟩
        rfl
  · rw [if_neg honly]
    simp [honly]

/-- The matches of a test in a tile are the features that pass it, in the layers asked for. -/
theorem lists_collect {m : Match} : (t.collect only test).Lists layer m ↔
    t.Has layer m ∧ only.all (· = layer) = true ∧ test m.feature = true := by
  constructor
  · rintro ⟨hits, hget, hm⟩
    obtain ⟨l, hl, honly, rfl, -⟩ := get?_collect.1 hget
    obtain ⟨hplace, htest⟩ := Layer.mem_matching.1 hm
    exact ⟨⟨l, hl, hplace⟩, honly, htest⟩
  · rintro ⟨⟨l, hl, hplace⟩, honly, htest⟩
    have hm : m ∈ l.matching test := Layer.mem_matching.2 ⟨hplace, htest⟩
    exact ⟨_, get?_collect.2 ⟨l, hl, honly, rfl, List.ne_nil_of_mem hm⟩, hm⟩

end Tile

end TileScope
