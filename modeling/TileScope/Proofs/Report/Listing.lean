import TileScope.Proofs.Report.Agreement
import TileScope.Proofs.Report.Comparison
import TileScope.Proofs.Report.Spot
import TileScope.Proofs.Search.Union

/-!
# All points, those of the matches marked

On demand an inspection lists the layers of a scanned tile, also those that the search does not look
in, and under a layer all coordinates of its point features. A listing joins the features of a layer
with the places found under its name, and no place of another layer or tile takes part: a coordinate
is marked just if its feature, at its place in its layer, is among the matches of the tile
(`LayerListing.Exact`). The rest of the report is the report without listings
(`Report.inspection_listing`).

| line | from |
| --- | --- |
| a layer with its size and extent | the layers of the tile, by name |
| a coordinate | the features of the layer, in order |
| its mark | the matches of the tile under the name of the layer |
-/

namespace TileScope

/-- A coordinate of a listing, with its feature. -/
structure ListedPoint where
  spot : Spot
  feature : Feature
  marked : Bool

/-- The line of a coordinate. -/
def ListedPoint.text (p : ListedPoint) : String :=
  "   " ++ (if p.marked then "*" else " ") ++ s!" {p.spot.point}  {p.feature.label}"

/-- What is listed of a layer. -/
structure LayerListing where
  name : String
  layer : Layer
  points : List ListedPoint

/-- A line for the layer, and one for each coordinate. -/
def LayerListing.lines (g : LayerListing) : List String :=
  s!"  {g.name}: {g.layer.features.size} features, extent {g.layer.extent.toNat}"
    :: g.points.map ListedPoint.text

/-- The coordinates of the point features of the layer are listed, each once and by feature, and
those are marked whose features are among the matches of the tile under the name of the layer, which
are those at the places that the tile keeps under this name. -/
structure LayerListing.Exact (g : LayerListing) (tile : ScannedTile) : Prop where
  ordered : (g.points.map (·.spot)).Pairwise Spot.Before
  listed : ∀ s f, (∃ p ∈ g.points, p.spot = s ∧ p.feature = f) ↔
    g.layer.features[s.feature]? = some f ∧
      ∃ points, f.geometry = .points points ∧ points[s.place]? = some s.point
  marked : ∀ p ∈ g.points, p.marked = true ↔ tile.found.Lists g.name ⟨p.spot.feature, p.feature⟩
  kept : ∀ p ∈ g.points, p.marked = true ↔
    ∃ places, tile.hits.get? g.name = some places ∧ p.spot.feature ∈ places

/-- What is listed of a tile. -/
structure TileListing where
  key : TileKey
  outcome : Outcome
  layers : List LayerListing

namespace TileListing

/-- What came of the tile, and a line for each match. -/
def brief (t : TileListing) : List String :=
  s!"{t.key}  {t.outcome.status}" :: match t.outcome with
    | .scanned tile => tile.found.listed.map fun m => s!"  [{m.1}] {m.2.feature.summary}"
    | _ => []

/-- The same, and the layers. -/
def full (t : TileListing) : List String := t.brief ++ t.layers.flatMap LayerListing.lines

/-- The layers of a scanned tile are listed, by name. Of a tile that was not scanned there are
none. -/
structure Exact (t : TileListing) : Prop where
  layers : ∀ tile, t.outcome = .scanned tile →
    t.layers.map (fun g => (g.name, g.layer)) = tile.tile.layers.entries
  ordered : (t.layers.map (·.name)).Pairwise (· < ·)
  listed : ∀ tile, t.outcome = .scanned tile → ∀ g ∈ t.layers, g.Exact tile
  unscanned : (∀ tile, t.outcome ≠ .scanned tile) → t.layers = []

end TileListing

/-- Whether a line is of the listing of a layer. -/
def Line.isListing : Line → Bool
  | .context .. | .point .. => true
  | _ => false

/-! ## Matches and places -/

namespace ScannedTile

variable {tile : ScannedTile} {layer : String}

/-- What is found under a layer is what stands in that layer at one of the places kept under it. -/
theorem lists_found_iff {m : Match} : tile.found.Lists layer m ↔
    tile.tile.Has layer m ∧ ∃ places, tile.hits.get? layer = some places ∧ m.index ∈ places := by
  simp only [LayerMatches.Lists, Tile.Has, found, OrderedMap.get?_mapEntries,
    Option.bind_eq_some_iff, Option.map_eq_some_iff]
  constructor
  · rintro ⟨hits, ⟨places, hplaces, l, hl, rfl⟩, hm⟩
    obtain ⟨i, hi, hm⟩ := List.mem_filterMap.1 hm
    obtain ⟨f, hf, rfl⟩ := Option.map_eq_some_iff.1 hm
    exact ⟨⟨l, hl, hf⟩, places, hplaces, hi⟩
  · rintro ⟨⟨l, hl, hf⟩, places, hplaces, hi⟩
    refine ⟨_, ⟨places, hplaces, l, hl, rfl⟩, List.mem_filterMap.2 ⟨m.index, hi, ?_⟩⟩
    rw [hf]
    rfl

variable {i : Nat} {f : Feature}

/-- The matches of a tile are the features at the places that were kept. -/
theorem lists_found_iff_kept (hf : tile.tile.Has layer ⟨i, f⟩) : tile.found.Lists layer ⟨i, f⟩ ↔
    ∃ places, tile.hits.get? layer = some places ∧ i ∈ places :=
  lists_found_iff.trans (and_iff_right hf)

/-- A feature is found just if its place is. -/
theorem contains_places_iff (hf : tile.tile.Has layer ⟨i, f⟩) :
    (tile.found.places layer).contains i = true ↔ tile.found.Lists layer ⟨i, f⟩ := by
  rw [List.contains_iff_mem, LayerMatches.mem_places]
  constructor
  · rintro ⟨g, hg⟩
    exact (lists_found_iff_kept hf).2 (lists_found_iff.1 hg).2
  · exact fun h => ⟨f, h⟩

end ScannedTile

/-! ## One layer -/

namespace Layer

variable {l : Layer} {name : String}

/-- The listing of a layer, the features at some places being marked. -/
def listing (l : Layer) (name : String) (places : List Nat) : LayerListing :=
  ⟨name, l, l.spotted.map fun e => ⟨e.1, e.2, places.contains e.1.feature⟩⟩

/-- A layer has a line for each coordinate of its point features. -/
theorem pointLines_eq (l : Layer) (places : List Nat) : l.pointLines places
    = l.spotted.map fun e => .point (places.contains e.1.feature) e.1.point e.2 := by
  rw [pointLines, spotted, List.map_flatMap]
  refine congrArg (List.flatMap · _) (funext fun e => ?_)
  obtain ⟨f, i⟩ := e
  dsimp only
  conv_lhs => rw [← List.zipIdx_map_fst 0 f.geometry.pointList]
  rw [List.map_map, List.map_map]
  rfl

/-- The listing of a layer is written as its heading and a line for each coordinate. -/
theorem lines_listing (l : Layer) (name : String) (places : List Nat) :
    (l.listing name places).lines
      = (.context name l.features.size l.extent :: l.pointLines places).map Line.text := by
  rw [List.map_cons, pointLines_eq, List.map_map, LayerListing.lines, listing, List.map_map]
  rfl

/-- The listing of a layer is exact. -/
theorem exact_listing {tile : ScannedTile} (hl : tile.tile.layers.get? name = some l) :
    (l.listing name (tile.found.places name)).Exact tile := by
  have hmarked : ∀ p ∈ (l.listing name (tile.found.places name)).points,
      tile.tile.Has name ⟨p.spot.feature, p.feature⟩ ∧
        (p.marked = true ↔ tile.found.Lists name ⟨p.spot.feature, p.feature⟩) := by
    intro p hp
    obtain ⟨⟨s, f⟩, he, rfl⟩ := List.mem_map.1 hp
    have hhas : tile.tile.Has name ⟨s.feature, f⟩ := ⟨l, hl, (mem_spotted.1 he).1⟩
    exact ⟨hhas, ScannedTile.contains_places_iff hhas⟩
  refine ⟨?_, fun s f => ?_, fun p hp => (hmarked p hp).2, fun p hp => ?_⟩
  · rw [listing, List.map_map]
    exact l.pairwise_spotted
  · rw [← mem_spotted]
    simp [listing]
  · obtain ⟨hhas, hlists⟩ := hmarked p hp
    exact hlists.trans (ScannedTile.lists_found_iff_kept hhas)

end Layer

/-! ## One tile -/

/-- The lines about layers and coordinates are those of listings. -/
theorem Tile.isListing_of_mem_contextLines {t : Tile} {found : LayerMatches} {line : Line}
    (h : line ∈ t.contextLines found) : line.isListing = true := by
  obtain ⟨e, -, h⟩ := List.mem_flatMap.1 h
  rcases List.mem_cons.1 h with rfl | h
  · rfl
  · rw [Layer.pointLines_eq] at h
    obtain ⟨s, -, rfl⟩ := List.mem_map.1 h
    rfl

namespace Outcome

/-- The listing of a tile. -/
def listing (key : TileKey) (o : Outcome) : TileListing where
  key := key
  outcome := o
  layers := match o with
    | .scanned tile => tile.tile.layers.entries.map fun e =>
      e.2.listing e.1 (tile.found.places e.1)
    | _ => []

variable {key : TileKey} {o : Outcome}

/-- The brief listing of a tile has the lines of the brief form. -/
theorem brief_listing (key : TileKey) (o : Outcome) :
    (o.listing key).brief = (o.lines false key).map Line.text := by
  cases o with
  | scanned tile =>
    rw [lines_scanned, List.map_cons, List.map_map]
    rfl
  | _ => rfl

/-- On demand the layers are added to the lines of a tile. -/
theorem lines_true (key : TileKey) (o : Outcome) : o.lines true key = o.lines false key ++
    match o with
    | .scanned tile => tile.tile.contextLines tile.found
    | _ => [] := by
  cases o with
  | scanned tile =>
    rw [lines_scanned, ← LayerMatches.lines_eq]
    rfl
  | _ => rfl

/-- The full listing of a tile has the lines of the full form. -/
theorem full_listing (key : TileKey) (o : Outcome) :
    (o.listing key).full = (o.lines true key).map Line.text := by
  rw [TileListing.full, brief_listing, lines_true, List.map_append]
  refine congrArg _ ?_
  cases o with
  | scanned tile =>
    show (tile.tile.layers.entries.map _).flatMap _ = (tile.tile.contextLines tile.found).map _
    rw [Tile.contextLines, List.flatMap_map, List.map_flatMap]
    simp only [Layer.lines_listing]
    rfl
  | _ => rfl

/-- The listing of a tile is exact. -/
theorem exact_listing (key : TileKey) (o : Outcome) : (o.listing key).Exact := by
  cases o with
  | scanned tile =>
    have hlayers : (listing key (.scanned tile)).layers.map (fun g => (g.name, g.layer))
        = tile.tile.layers.entries := by
      rw [listing, List.map_map]
      exact List.map_id _
    refine ⟨fun _ h => ?_, ?_, fun _ h g hg => ?_, fun h => absurd rfl (h tile)⟩
    · cases h
      exact hlayers
    · rw [listing, List.map_map]
      exact List.pairwise_map.2 (tile.tile.layers.ascending.imp compareOfLessAndEq_eq_lt.1)
    · cases h
      obtain ⟨e, he, rfl⟩ := List.mem_map.1 hg
      exact Layer.exact_listing (OrderedMap.get?_eq_some_iff.2 he)
  | _ => exact ⟨nofun, .nil, nofun, fun _ => rfl⟩

/-- The brief form has no lines about layers and coordinates. -/
theorem not_isListing_of_mem_lines {line : Line} (h : line ∈ o.lines false key) :
    line.isListing = false := by
  cases o with
  | scanned tile =>
    rw [lines_scanned] at h
    rcases List.mem_cons.1 h with rfl | h
    · rfl
    · obtain ⟨m, -, rfl⟩ := List.mem_map.1 h
      rfl
  | _ =>
    obtain rfl := List.mem_singleton.1 h
    rfl

/-- Without its listings, what is said about a tile is what is said without any. -/
theorem filter_lines (key : TileKey) (o : Outcome) :
    (o.lines true key).filter (fun line => !line.isListing) = o.lines false key := by
  have hbrief : (o.lines false key).filter (fun line => !line.isListing) = o.lines false key :=
    List.filter_eq_self.2 fun _ h => by rw [not_isListing_of_mem_lines h, Bool.not_false]
  rw [lines_true, List.filter_append, hbrief]
  cases o with
  | scanned tile =>
    dsimp only
    rw [List.filter_eq_nil_iff.2 fun line h => by simp [Tile.isListing_of_mem_contextLines h],
      List.append_nil]
  | _ => exact List.append_nil _

end Outcome

/-! ## The report -/

namespace Report

variable {r : Report}

/-- The listings of a report. -/
def listings (r : Report) : List TileListing := r.outcomes.entries.map fun e => e.2.listing e.1

/-- The report is made of its listings, whichever of their lines are those of the tiles. -/
theorem text_listings (r : Report) (query : Query) {all : Bool} {lines : TileListing → List String}
    (h : ∀ (key : TileKey) (o : Outcome), lines (o.listing key) = (o.lines all key).map Line.text) :
    (r.inspection query all).map Line.text
      = [Line.source r.source r.metadata, .search query, .blank].map Line.text
        ++ r.listings.flatMap lines ++ [Line.blank, r.summary].map Line.text := by
  rw [text_inspection, listings, List.flatMap_map]
  simp only [h]

/-- Without its listings a report is the report without any. -/
theorem filter_inspection (r : Report) (query : Query) :
    (r.inspection query true).filter (fun line => !line.isListing) = r.inspection query false := by
  rw [inspection, inspection, List.filter_append, List.filter_append, List.filter_flatMap]
  simp only [Outcome.filter_lines]
  rfl

/-- In a report that was searched, a mark is decided by the search, the layer and the feature. -/
theorem SearchedFor.marked_iff {searched : Query} (h : r.SearchedFor searched) {t : TileListing}
    (ht : t ∈ r.listings) {g : LayerListing} (hg : g ∈ t.layers) {p : ListedPoint}
    (hp : p ∈ g.points) : p.marked = true ↔
      searched.Covers g.name ∧ (searched.FitsId p.feature ∨ searched.FitsName p.feature) := by
  obtain ⟨⟨key, o⟩, he, rfl⟩ := List.mem_map.1 ht
  cases o with
  | scanned tile =>
    obtain ⟨e, hl, rfl⟩ := List.mem_map.1 hg
    have hget : tile.tile.layers.get? e.1 = some e.2 := OrderedMap.get?_eq_some_iff.2 hl
    have hexact := Layer.exact_listing hget
    have hfound : tile.found = searched.run tile.tile :=
      (h key tile (OrderedMap.get?_eq_some_iff.2 he)).found_eq
    have hhas : tile.tile.Has e.1 ⟨p.spot.feature, p.feature⟩ :=
      ⟨e.2, hget, ((hexact.listed _ _).1 ⟨p, hp, rfl, rfl⟩).1⟩
    rw [hexact.marked p hp, hfound, Query.lists_run]
    exact and_iff_right hhas
  | _ => cases hg

/-- **The points of the matches are marked, and no others.** On demand each scanned tile is followed
by the listings of its layers, and nothing else in the report changes. Every layer of the tile is
listed, in the order of names, and in it every coordinate of a point feature, once, by feature and
in the order of the geometry. A coordinate is marked just if its feature stands among the matches of
the tile under the layer, at its place. In a report that was searched for one query, as the reports
of scans are, it is marked just if the query covers the layer and fits the feature. -/
theorem inspection_listing :
    (∀ (s : Store) (cancelled : Bool) (keys : List TileKey) (query : Query),
      (s.scan cancelled keys query).SearchedFor query) ∧
    ∀ (r : Report) (query : Query),
      let header := [Line.source r.source r.metadata, .search query, .blank].map Line.text
      let footer := [Line.blank, r.summary].map Line.text
      (r.inspection query true).filter (fun line => !line.isListing) = r.inspection query false ∧
      ∃ tiles : List TileListing,
        tiles.map (fun t => (t.key, t.outcome)) = r.outcomes.entries ∧
        (∀ t ∈ tiles, t.Exact) ∧
        (r.inspection query false).map Line.text
          = header ++ tiles.flatMap TileListing.brief ++ footer ∧
        (r.inspection query true).map Line.text
          = header ++ tiles.flatMap TileListing.full ++ footer ∧
        ∀ searched, r.SearchedFor searched → ∀ t ∈ tiles, ∀ g ∈ t.layers, ∀ p ∈ g.points,
          (p.marked = true ↔ searched.Covers g.name ∧
            (searched.FitsId p.feature ∨ searched.FitsName p.feature)) := by
  refine ⟨fun s cancelled keys query key tile h => Store.searchedFor_of_scan h,
    fun r query => ⟨r.filter_inspection query, r.listings, ?_, fun t ht => ?_,
      r.text_listings query Outcome.brief_listing, r.text_listings query Outcome.full_listing,
      fun searched h t ht g hg p hp => h.marked_iff ht hg hp⟩⟩
  · rw [listings, List.map_map]
    exact List.map_id _
  · obtain ⟨e, -, rfl⟩ := List.mem_map.1 ht
    exact Outcome.exact_listing e.1 e.2

/-- Two tiles that were searched for one id in one layer: it is at different places in them, and one
of them has it in another layer as well. -/
theorem inspection_listing_twoTiles :
    let west : TileKey := ⟨1, 0, 0, by decide, by decide, by decide⟩
    let east : TileKey := ⟨1, 1, 0, by decide, by decide, by decide⟩
    let single : Feature := ⟨some 9, .points [⟨3, -1⟩], .empty⟩
    let double : Feature := ⟨some 7, .points [⟨3, -1⟩, ⟨4, 2⟩], .empty⟩
    let query : Query := { ids := .ofList [7], layer := some "a" }
    let search (layers : List (String × Layer)) : Outcome :=
      .scanned (ScannedTile.search query ⟨⟨.ofList layers⟩, 40, 60⟩)
    let r : Report :=
      { source := "two tiles"
        metadata := .empty
        outcomes := ⟨[
          (west, search [("a", ⟨2, 4096, #[single, double]⟩), ("b", ⟨2, 4096, #[double]⟩)]),
          (east, search [("a", ⟨2, 512, #[double, single]⟩)])], by rw [Ascending]; decide⟩ }
    r.SearchedFor query ∧
    (r.inspection query true).map Line.text =
      ["Source: two tiles", "Search: ids 7 in layer a", "",
        "1/0/0  1 match", "  [a] #7 Point (2 coordinates)",
        "  a: 2 features, extent 4096", "     (3, -1)  #9", "   * (3, -1)  #7", "   * (4, 2)  #7",
        "  b: 1 features, extent 4096", "     (3, -1)  #7", "     (4, 2)  #7",
        "1/1/0  1 match", "  [a] #7 Point (2 coordinates)",
        "  a: 2 features, extent 512", "   * (3, -1)  #7", "   * (4, 2)  #7", "     (3, -1)  #9",
        "", "2 matches in 2 tile(s); 0 absent, 0 unavailable"] ∧
    ∃ tiles : List TileListing, tiles.map (·.key) = [west, east] ∧ (∀ t ∈ tiles, t.Exact) ∧
      ∀ t ∈ tiles, ∀ g ∈ t.layers, ∀ p ∈ g.points,
        (p.marked = true ↔ g.name = "a" ∧ p.feature.id = some 7) := by
  intro west east single double query search r
  have hsearched : r.SearchedFor query := by
    intro key tile h
    have hmem := OrderedMap.get?_eq_some_iff.1 h
    simp only [r, search, List.mem_cons, Prod.mk.injEq, Outcome.scanned.injEq, List.not_mem_nil,
      or_false] at hmem
    rcases hmem with ⟨-, rfl⟩ | ⟨-, rfl⟩ <;> exact ScannedTile.searchedFor_search query _
  obtain ⟨-, tiles, hentries, hexact, -, -, hmarked⟩ := inspection_listing.2 r query
  have hkeys : tiles.map (·.key) = [west, east] := by
    have := congrArg (List.map Prod.fst) hentries
    rwa [List.map_map] at this
  have hcovers (layer : String) : query.Covers layer ↔ layer = "a" := by
    simp [Query.Covers, query, eq_comm (a := layer)]
  have hfits (f : Feature) : query.FitsId f ∨ query.FitsName f ↔ f.id = some 7 := by
    simp [Query.FitsId, Query.FitsName, query, OrderedSet.mem_ofList]
  refine ⟨hsearched, by decide +kernel, tiles, hkeys, hexact, fun t ht g hg p hp => ?_⟩
  rw [hmarked query hsearched t ht g hg p hp, hcovers, hfits]

end Report

end TileScope
