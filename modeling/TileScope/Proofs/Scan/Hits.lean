import TileScope.Proofs.Scan.Independence
import TileScope.Proofs.Search.Matching

/-!
# Kept places

A scanned tile keeps the places of the features found, not the features. Looked up in the tile, the
places give the search again (`ScannedTile.SearchedFor.found_eq`): every place is one of a layer of
the tile, and none is lost. So the counts of a report, which only count places, are those of the
features that it lists (`Store.scan_found`).

| accessor | walks over |
| --- | --- |
| `ScannedTile.found` | places, each looked up in its layer |
| `ScannedTile.matchCount` | places |
| `Report.found` | scanned tiles, places looked up |
| `Report.totalMatches` | scanned tiles, places |
-/

namespace TileScope

namespace LayerMatches

/-- The number of places is the sum over the layers. -/
theorem total_eq_sum (found : LayerMatches) :
    found.total = (found.values.map List.length).sum := by
  rw [total, List.length_flatten]

/-- All matches with their layers, in order. -/
def listed (found : LayerMatches) : List (String × Match) :=
  found.entries.flatMap fun e => e.2.map fun m => (e.1, m)

/-- As many places are listed as are counted. -/
theorem length_listed (found : LayerMatches) : found.listed.length = found.total := by
  rw [listed, total_eq_sum, List.length_flatMap, OrderedMap.values, List.map_map]
  simp only [List.length_map, Function.comp_def]

/-- The places listed are those under their layers. -/
theorem mem_listed {found : LayerMatches} {layer : String} {m : Match} :
    (layer, m) ∈ found.listed ↔ found.Lists layer m := by
  simp only [listed, List.mem_flatMap, List.mem_map, Prod.mk.injEq, Lists,
    OrderedMap.get?_eq_some_iff]
  constructor
  · rintro ⟨⟨_, hits⟩, he, _, hm, rfl, rfl⟩
    exact ⟨hits, he, hm⟩
  · rintro ⟨hits, he, hm⟩
    exact ⟨(layer, hits), he, m, hm, rfl, rfl⟩

end LayerMatches

namespace ScannedTile

/-- The places in a scanned tile are those of a search of the tile. -/
def SearchedFor (query : Query) (tile : ScannedTile) : Prop :=
  tile = search query tile.toLoadedTile

variable {query : Query} {loaded : LoadedTile} {tile : ScannedTile}

/-- A tile that is searched has the places of the search. -/
theorem searchedFor_search (query : Query) (loaded : LoadedTile) :
    (search query loaded).SearchedFor query := rfl

/-- The places kept under a layer are places of that layer, at least one. -/
theorem SearchedFor.of_hits (h : tile.SearchedFor query) {layer : String} {places : List Nat}
    (hget : tile.hits.get? layer = some places) : ∃ l, tile.tile.layers.get? layer = some l ∧
      places ≠ [] ∧ ∀ i ∈ places, i < l.features.size := by
  rw [h, search, OrderedMap.get?_mapEntries, Option.bind_eq_some_iff] at hget
  obtain ⟨hits, hrun, hplaces⟩ := hget
  obtain rfl := Option.some.inj hplaces
  obtain ⟨l, hl, -, rfl, hne⟩ := Tile.get?_collect.1 hrun
  refine ⟨l, hl, fun hnil => hne (List.map_eq_nil_iff.1 hnil), fun i hi => ?_⟩
  obtain ⟨m, hm, rfl⟩ := List.mem_map.1 hi
  exact (Array.getElem?_eq_some_iff.1 (Layer.mem_matching.1 hm).1).1

/-- **The places that were kept give the search again.** -/
theorem SearchedFor.found_eq (h : tile.SearchedFor query) : tile.found = query.run tile.tile := by
  refine OrderedMap.ext_get? fun layer => ?_
  rw [found, OrderedMap.get?_mapEntries]
  have hhits : tile.hits.get? layer
      = ((query.run tile.tile).get? layer).map fun hits => hits.map (·.index) := by
    rw [h, search, OrderedMap.get?_mapEntries]
    cases (query.run tile.tile).get? layer <;> rfl
  rw [hhits]
  cases hrun : (query.run tile.tile).get? layer with
  | none => rfl
  | some hits =>
    obtain ⟨l, hl, -, rfl, -⟩ := Tile.get?_collect.1 hrun
    rw [Option.map_some, Option.bind_some, hl, Option.map_some, Layer.filterMap_matching]

/-- No feature of a tile is listed twice. -/
theorem SearchedFor.nodup_listed (h : tile.SearchedFor query) : tile.found.listed.Nodup := by
  rw [h.found_eq, LayerMatches.listed]
  refine OrderedMap.nodup_flatMap (fun layer (hits : List Match) => hits.map fun m => (layer, m))
    Prod.fst (fun e _ c hc => ?_) fun e he => ?_
  · obtain ⟨m, -, rfl⟩ := List.mem_map.1 hc
    rfl
  · obtain ⟨l, -, -, hmatching, -⟩ := Tile.get?_collect.1 (OrderedMap.get?_eq_some_iff.2 he)
    rw [← hmatching]
    exact (Layer.nodup_matching l _).map fun _ _ h => (Prod.mk.inj h).2

/-- A searched tile counts the places that the query finds in it. -/
theorem SearchedFor.matchCount_eq (h : tile.SearchedFor query) :
    tile.matchCount = (query.run tile.tile).total := by
  have hvalues : tile.hits.values = (query.run tile.tile).values.map fun hits =>
      hits.map (·.index) := by
    rw [h, search]
    exact OrderedMap.values_mapEntries_some _ _
  rw [matchCount, LayerMatches.total, hvalues, List.length_flatten, List.length_flatten,
    List.map_map]
  simp only [Function.comp_def, List.length_map]

end ScannedTile

namespace Report

/-- Every scanned tile of the report was searched, not all of them for the same. -/
def Searched (r : Report) : Prop :=
  ∀ key tile, r.outcomes.get? key = some (.scanned tile) → ∃ query, tile.SearchedFor query

/-- What was found in a tile is what the scanned tile says. -/
theorem get?_found {r : Report} {key : TileKey} :
    r.found.get? key = (r.scanned.get? key).map ScannedTile.found := by
  rw [found, OrderedMap.get?_mapEntries]
  cases r.scanned.get? key <;> rfl

/-- The tiles with places are the scanned ones. -/
theorem mem_keys_found {r : Report} {key : TileKey} :
    key ∈ r.found.keys ↔ ∃ tile, r.outcomes.get? key = some (.scanned tile) := by
  rw [found, OrderedMap.keys_mapEntries_some, OrderedMap.mem_keys_iff]
  simp only [get?_scanned]

/-- The number of matches is the sum over the scanned tiles. -/
theorem totalMatches_eq_sum (r : Report) :
    r.totalMatches = (r.scanned.values.map ScannedTile.matchCount).sum := by
  rw [totalMatches, List.sum_eq_foldl, List.foldl_map]

/-- The number of matches is that of the matches listed. -/
theorem Searched.totalMatches_eq {r : Report} (h : r.Searched) :
    r.totalMatches = (r.found.values.map LayerMatches.total).sum := by
  have hcount : ∀ tile ∈ r.scanned.values, tile.matchCount = tile.found.total := by
    intro tile htile
    obtain ⟨e, he, rfl⟩ := List.mem_map.1 htile
    obtain ⟨query, hquery⟩ := h e.1 e.2 (get?_scanned.1 (OrderedMap.get?_eq_some_iff.2 he))
    rw [hquery.matchCount_eq, hquery.found_eq]
  rw [totalMatches_eq_sum, List.map_congr_left hcount, found, OrderedMap.values_mapEntries_some,
    List.map_map]
  rfl

end Report

namespace Store

/-- Every tile that a scan has scanned was searched for its query. -/
theorem searchedFor_of_scan {s : Store} {cancelled : Bool} {keys : List TileKey} {query : Query}
    {key : TileKey} {tile : ScannedTile}
    (h : (s.scan cancelled keys query).outcomes.get? key = some (.scanned tile)) :
    tile.SearchedFor query := by
  obtain ⟨-, h⟩ := get?_outcomes.1 h
  cases cancelled with
  | true => cases h
  | false =>
    rcases scanTile_cases s query key with
      ⟨loaded, -, h'⟩ | ⟨missing, -, h'⟩ | ⟨e, -, -, h'⟩ <;> rw [h] at h' <;> cases h'
    exact ScannedTile.searchedFor_search query loaded

/-- The report of a scan is of searched tiles. -/
theorem searched_scan (s : Store) (cancelled : Bool) (keys : List TileKey) (query : Query) :
    (s.scan cancelled keys query).Searched := fun _ _ h => ⟨query, searchedFor_of_scan h⟩

/-- **A report lists what its searches found.** For every store, list of keys and query: what a
scanned tile lists is what the search of the tile gives, with the same layers, features and points
in the same order; its count is the number of those; each layer that it keeps places of is one of
the tile and has a feature at each of them, at least one. The report lists the scanned tiles and no
other, also those without matches, and its total is that of all matches it lists. -/
theorem scan_found (s : Store) (cancelled : Bool) (keys : List TileKey) (query : Query) :
    let r := s.scan cancelled keys query
    (∀ key tile, r.outcomes.get? key = some (.scanned tile) →
      tile.found = query.run tile.tile ∧
      tile.matchCount = ((query.run tile.tile).values.map List.length).sum ∧
      (∀ layer places, tile.hits.get? layer = some places →
        ∃ l, tile.tile.layers.get? layer = some l ∧ places ≠ [] ∧
          ∀ i ∈ places, i < l.features.size) ∧
      r.found.get? key = some (query.run tile.tile)) ∧
    (∀ key, key ∈ r.found.keys ↔ ∃ tile, r.outcomes.get? key = some (.scanned tile)) ∧
    r.totalMatches = (r.found.values.map fun layers => (layers.values.map List.length).sum).sum := by
  intro r
  refine ⟨fun key tile h => ?_, fun key => Report.mem_keys_found, ?_⟩
  · have hsearched : tile.SearchedFor query := searchedFor_of_scan h
    refine ⟨hsearched.found_eq, ?_, fun layer places => hsearched.of_hits, ?_⟩
    · rw [hsearched.matchCount_eq, LayerMatches.total_eq_sum]
    · rw [Report.get?_found, Report.get?_scanned.2 h, Option.map_some, hsearched.found_eq]
  · have hsum : LayerMatches.total = fun layers => (layers.values.map List.length).sum :=
      funext LayerMatches.total_eq_sum
    rw [(searched_scan s cancelled keys query).totalMatches_eq, hsum]

/-- A tile with one layer of two points, of which one has the id looked for, and the tile next to
it, which is missing. -/
theorem scan_found_twoPoints :
    let west : TileKey := ⟨1, 0, 0, by decide, by decide, by decide⟩
    let east : TileKey := ⟨1, 1, 0, by decide, by decide, by decide⟩
    let points : Layer := ⟨2, 4096, #[⟨some 9, .points [⟨1, 2⟩], .empty⟩,
      ⟨some 7, .points [⟨3, -1⟩], .empty⟩]⟩
    let bytes := ofOctets [0x1a, 0x1b, 0x0a, 0x01, 0x61, 0x12, 0x09, 0x08, 0x09, 0x18, 0x01, 0x22,
      0x03, 0x09, 0x02, 0x04, 0x12, 0x09, 0x08, 0x07, 0x18, 0x01, 0x22, 0x03, 0x09, 0x06, 0x01,
      0x78, 0x02]
    let query : Query := { ids := .ofList [7] }
    let r := (oneTile west bytes (.error (.notFound east))).scan false [west, east] query
    let tile : ScannedTile := ⟨⟨⟨.ofList [("a", points)]⟩, 29, 29⟩, .ofList [("a", [1])]⟩
    r.outcomes.get? west = some (.scanned tile) ∧ tile.found = query.run tile.tile ∧
      west ∈ r.found.keys ∧ r.totalMatches = 1 := by
  intro west east points bytes query r tile
  have hwest : r.outcomes.get? west = some (.scanned tile) := by decide +kernel
  obtain ⟨htiles, hkeys, htotal⟩ :=
    scan_found (oneTile west bytes (.error (.notFound east))) false [west, east] query
  obtain ⟨hfound, -, -, -⟩ := htiles west tile hwest
  have hone : (r.found.values.map fun layers => (layers.values.map List.length).sum).sum = 1 := by
    decide +kernel
  exact ⟨hwest, hfound, (hkeys west).2 ⟨tile, hwest⟩, htotal.trans hone⟩

end Store

end TileScope
