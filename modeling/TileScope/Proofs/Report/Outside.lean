import TileScope.Proofs.InOrder
import TileScope.Proofs.Report.Spot
import TileScope.Proofs.Report.Wording
import TileScope.Report.Probe

/-!
# Points outside the extent, listed and shown

A layer lists its points outside the extent spot by spot: the coordinates of its point features that
are left of, above, right of or below its square (`Layer.exists_spots`). Both forms of a probe go
back from a point to its feature, and show the same features with the same points
(`Probe.outside_exact`):

| lines | JSON |
| --- | --- |
| a count for each layer with such points | a field of `outside_extent` |
| a line for each point, with what is said of its feature | an item of the field, with the point and the feature's place and id |
| "No points outside the layer extent" | no fields |
-/

namespace TileScope

/-! ## Where the points are -/

/-- What is listed for a coordinate outside the extent. -/
def Spot.listed (s : Spot) : OutsidePoint := ⟨s.feature, s.point⟩

/-- A coordinate of a point feature that is not in the square of the layer. -/
structure Layer.HasOutside (l : Layer) (s : Spot) : Prop where
  stands : ∃ f points, l.features[s.feature]? = some f ∧ f.geometry = .points points ∧
    points[s.place]? = some s.point
  outside : s.point.x.toInt < 0 ∨ s.point.y.toInt < 0 ∨ (l.extent.toNat : Int) ≤ s.point.x.toInt ∨
    (l.extent.toNat : Int) ≤ s.point.y.toInt

/-- A point is outside if a coordinate is below zero or has reached the extent. -/
theorem Point.isWithin_eq_false_iff {p : Point} {extent : UInt32} : p.isWithin extent = false ↔
    p.x.toInt < 0 ∨ p.y.toInt < 0 ∨ (extent.toNat : Int) ≤ p.x.toInt ∨
      (extent.toNat : Int) ≤ p.y.toInt := by
  rw [isWithin, decide_eq_false_iff_not]
  omega

namespace Layer

/-- The coordinates outside the extent, where they stand. -/
def spots (l : Layer) : List Spot :=
  l.features.toList.zipIdx.flatMap fun (f, i) =>
    (f.geometry.pointList.zipIdx.filter fun c => !c.1.isWithin l.extent).map fun c => ⟨i, c.2, c.1⟩

variable {l : Layer}

/-- The coordinates outside are the points that the search lists. -/
theorem map_listed_spots (l : Layer) : l.spots.map Spot.listed = l.outside := by
  rw [spots, outside, List.map_flatMap]
  refine congrArg (List.flatMap · _) (funext fun e => ?_)
  obtain ⟨f, i⟩ := e
  have hplaces : (f.geometry.pointList.zipIdx.filter fun c => !c.1.isWithin l.extent).map Prod.fst
      = f.geometry.pointList.filter fun c => !c.isWithin l.extent := by
    conv_rhs => rw [← List.zipIdx_map_fst 0 f.geometry.pointList, List.filter_map]
    rfl
  dsimp only
  rw [← hplaces, List.map_map, List.map_map]
  rfl

/-- The coordinates outside are those of point features that are not within the extent. -/
theorem spots_eq (l : Layer) :
    l.spots = (l.spotted.map Prod.fst).filter fun s => !s.point.isWithin l.extent := by
  rw [spots, spotted, List.map_flatMap, List.filter_flatMap]
  simp only [List.map_map, List.filter_map, Function.comp_def]

/-- A coordinate is listed if the layer has it outside. -/
theorem mem_spots {s : Spot} : s ∈ l.spots ↔ l.HasOutside s := by
  simp only [spots_eq, List.mem_filter, List.mem_map, Prod.exists, exists_and_right,
    exists_eq_right, mem_spotted, Bool.not_eq_true', Point.isWithin_eq_false_iff]
  constructor
  · rintro ⟨⟨f, hf, points, hpoints, hp⟩, houtside⟩
    exact ⟨⟨f, points, hf, hpoints, hp⟩, houtside⟩
  · rintro ⟨⟨f, points, hf, hpoints, hp⟩, houtside⟩
    exact ⟨⟨f, hf, points, hpoints, hp⟩, houtside⟩

/-- The coordinates outside stand by feature and then by place. -/
theorem pairwise_spots (l : Layer) : l.spots.Pairwise Spot.Before :=
  l.spots_eq ▸ l.pairwise_spotted.filter _

end Layer

/-! ## Back to the features -/

/-- If every element has something behind it, so has the list. -/
theorem exists_map_eq {α β : Type} {g : β → α} {good : β → Prop} {l : List α}
    (h : ∀ a ∈ l, ∃ b, g b = a ∧ good b) : ∃ r : List β, r.map g = l ∧ ∀ b ∈ r, good b := by
  induction l with
  | nil => exact ⟨[], rfl, nofun⟩
  | cons a l ih =>
    obtain ⟨⟨b, rfl, hb⟩, hl⟩ := List.forall_mem_cons.1 h
    obtain ⟨r, rfl, hr⟩ := ih hl
    exact ⟨b :: r, rfl, List.forall_mem_cons.2 ⟨hb, hr⟩⟩

/-- Points outside the extent by layer, each with its feature. -/
abbrev OutsideFeatures := List (String × List (OutsidePoint × Feature))

namespace Tile

/-- These are the points that the tile lists, each with the feature at its place. -/
structure LooksUp (t : Tile) (found : OutsideFeatures) : Prop where
  points : found.map (fun e => (e.1, e.2.map Prod.fst)) = t.outside.entries
  features : ∀ e ∈ found, ∃ l, t.layers.get? e.1 = some l ∧
    ∀ x ∈ e.2, l.features[x.1.index]? = some x.2

/-- Every tile has its points outside, each with its feature. -/
theorem exists_looksUp (t : Tile) : ∃ found, t.LooksUp found := by
  have hlayer : ∀ e ∈ t.outside.entries, ∃ found : String × List (OutsidePoint × Feature),
      (found.1, found.2.map Prod.fst) = e ∧ ∃ l, t.layers.get? found.1 = some l ∧
        ∀ x ∈ found.2, l.features[x.1.index]? = some x.2 := by
    rintro ⟨name, points⟩ he
    obtain ⟨l, hl, rfl, -⟩ := get?_outside.1 (OrderedMap.get?_eq_some_iff.2 he)
    have hfeature : ∀ p ∈ l.outside, ∃ x : OutsidePoint × Feature,
        x.1 = p ∧ l.features[x.1.index]? = some x.2 := fun p hp =>
      have ⟨f, hf⟩ := Layer.exists_feature_of_outside hp
      ⟨(p, f), rfl, hf⟩
    obtain ⟨shown, hshown, hfeatures⟩ := exists_map_eq hfeature
    exact ⟨(name, shown), by rw [hshown], l, hl, hfeatures⟩
  obtain ⟨found, hpoints, hfeatures⟩ := exists_map_eq hlayer
  exact ⟨found, hpoints, hfeatures⟩

variable {t : Tile} {found : OutsideFeatures}

/-- Every look-up succeeds, and what is made of the points is made of them in order. -/
theorem LooksUp.mapOutside?_eq (h : t.LooksUp found) {β : Type}
    (f : OutsidePoint → Feature → β) :
    t.mapOutside? f = some (found.map fun e => (e.1, e.2.map fun x => f x.1 x.2)) := by
  rw [mapOutside?, ← h.points]
  refine mapM_map_eq_pure fun e he => ?_
  obtain ⟨l, hl, hfeatures⟩ := h.features e he
  have hshown : (e.2.map Prod.fst).mapM (fun p => l.features[p.index]?.map (f p))
      = some (e.2.map fun x => f x.1 x.2) :=
    mapM_map_eq_pure fun x hx => congrArg (Option.map _) (hfeatures x hx)
  dsimp only
  rw [hl, Option.bind_eq_bind, Option.bind_some, hshown]
  rfl

/-- What is made of the points is made of each with its feature. -/
theorem LooksUp.mapOutside_eq (h : t.LooksUp found) {β : Type} (f : OutsidePoint → Feature → β) :
    t.mapOutside f = found.map fun e => (e.1, e.2.map fun x => f x.1 x.2) := by
  rw [mapOutside, Option.get_of_eq_some _ (h.mapOutside?_eq f)]

/-- There are no points outside if no layer has any. -/
theorem LooksUp.isEmpty_iff (h : t.LooksUp found) : t.outside.isEmpty = true ↔ found = [] := by
  rw [OrderedMap.isEmpty, ← h.points, List.isEmpty_iff, List.map_eq_nil_iff]

end Tile

/-! ## The two forms -/

namespace Line

/-- The lines that a probe is made of. -/
inductive Probes : Line → Prop
  | source (name : String) (metadata : Metadata) : Probes (.source name metadata)
  | probed (key : TileKey) : Probes (.probed key)
  | sizes (stored payload : Nat) : Probes (.sizes stored payload)
  | layer (name : String) (features : Nat) (extent version : UInt32) :
    Probes (.layer name features extent version)
  | noneOutside : Probes .noneOutside
  | outsideCount (layer : String) (points : Nat) : Probes (.outsideCount layer points)
  | outside (point : Point) (feature : Feature) : Probes (.outside point feature)

variable {line : Line}

/-- No other line of a probe has the text that there are no points outside the extent: a count ends
in other words, and the rest begin with another letter. -/
theorem Probes.text_eq_iff (h : line.Probes) :
    line.text = "No points outside the layer extent" ↔ line = .noneOutside := by
  have hindent : (toString "  ").toList = [' ', ' '] := by decide
  have hfirst (hne : line.text.toList.head? ≠ some 'N') :
      line.text ≠ "No points outside the layer extent" := fun htext => hne (by rw [htext]; rfl)
  refine ⟨fun htext => ?_, fun hline => hline ▸ rfl⟩
  cases h with
  | source name metadata =>
    refine absurd htext (hfirst ?_)
    have hsource : (toString "Source: ").toList = 'S' :: "ource: ".toList := by decide
    rw [text]
    split <;> simp [String.toList_append, hsource]
  | probed key =>
    refine absurd htext (hfirst ?_)
    have htile : (toString "Tile ").toList = 'T' :: "ile ".toList := by decide
    simp [text, String.toList_append, htile]
  | sizes stored payload =>
    refine absurd htext (hfirst ?_)
    have hsizes : (toString "  payload: ").toList = ' ' :: " payload: ".toList := by decide
    simp [text, String.toList_append, hsizes]
  | layer name features extent version =>
    refine absurd htext (hfirst ?_)
    have hlayer : (toString "  layer ").toList = ' ' :: " layer ".toList := by decide
    simp [text, String.toList_append, hlayer]
  | noneOutside => rfl
  | outsideCount layer points =>
    have hwords : (toString " point(s) outside the extent").toList
        = " point(s) outside".toList ++ " the extent".toList := by decide
    have hsuffix : " the extent".toList <:+ "No points outside the layer extent".toList := by
      rw [← htext]
      simp only [text, String.toList_append, hwords, ← List.append_assoc]
      exact List.suffix_append _ _
    exact absurd hsuffix (by decide)
  | outside point feature =>
    refine absurd htext (hfirst ?_)
    simp [text, String.toList_append, hindent]

/-- The line of a point outside the extent has the point, and what is said of its feature. -/
theorem text_outside (p : Point) (f : Feature) :
    (Line.outside p f).text = s!"  ({p.x.toInt}, {p.y.toInt})  {f.summary}" := by
  have hword (s : String) : toString s = s := rfl
  have hpoint : toString p = s!"({p.x.toInt}, {p.y.toInt})" := rfl
  have hopen : "  (" = "  " ++ "(" := by decide
  have hclose : ")  " = ")" ++ "  " := by decide
  simp only [text, hword, hpoint, hopen, hclose, String.append_assoc]

end Line

/-- What both forms of a probe show of a point outside the extent and its feature: the line has the
point and tells the feature, and the item has the feature's place, its id and the point. -/
structure ShownOutside (x : OutsidePoint × Feature) (line : String) (item : Json) : Prop where
  line : ∃ told, x.2.Told told ∧
    line = s!"  ({x.1.point.x.toInt}, {x.1.point.y.toInt})  {told}"
  item : item.ShowsOutside x.1 x.2

/-- A point outside the extent is shown by its line and its item. -/
theorem shownOutside (x : OutsidePoint × Feature) :
    ShownOutside x (Line.outside x.1.point x.2).text (Json.ofOutside x.1 x.2) :=
  ⟨⟨x.2.summary, x.2.told_summary, Line.text_outside x.1.point x.2⟩,
    Json.showsOutside_ofOutside x.1 x.2⟩

namespace Probe

variable {p : Probe} {found : OutsideFeatures}

/-- A probe has the number of points for each layer, and a line for each of them. -/
theorem outsideLines_eq (h : p.loaded.tile.LooksUp found) :
    p.outsideLines = if found = [] then [.noneOutside] else found.flatMap fun e =>
      .outsideCount e.1 e.2.length :: e.2.map fun x => .outside x.1.point x.2 := by
  unfold outsideLines
  by_cases hfound : found = []
  · rw [if_pos hfound, if_pos (h.isEmpty_iff.2 hfound)]
  · rw [if_neg hfound, if_neg (mt h.isEmpty_iff.1 hfound), h.mapOutside_eq, List.flatMap_map]
    simp only [List.length_map]

/-- The lines in front of the points outside the extent. -/
def header (p : Probe) : List Line :=
  [.source p.source p.metadata, .probed p.key, .sizes p.loaded.storedBytes p.loaded.payloadBytes]
    ++ p.loaded.tile.layers.entries.map fun (name, layer) =>
      .layer name layer.features.size layer.extent layer.version

/-- There are three lines in front, and one for each layer. -/
theorem length_header (p : Probe) : p.header.length = p.loaded.tile.layers.size + 3 := by
  simp [header, OrderedMap.size]

/-- A line in front is a line of a probe, and does not say that there are no points outside. -/
theorem of_mem_header {line : Line} (h : line ∈ p.header) : line.Probes ∧ line ≠ .noneOutside := by
  rw [header, List.mem_append] at h
  rcases h with h | h
  · simp only [List.mem_cons, List.not_mem_nil, or_false] at h
    rcases h with rfl | rfl | rfl
    · exact ⟨.source _ _, nofun⟩
    · exact ⟨.probed _, nofun⟩
    · exact ⟨.sizes _ _, nofun⟩
  · obtain ⟨e, -, rfl⟩ := List.mem_map.1 h
    exact ⟨.layer _ _ _ _, nofun⟩

/-- A line about points outside the extent is a line of a probe. -/
theorem probes_of_mem_outsideLines {line : Line} (h : line ∈ p.outsideLines) : line.Probes := by
  obtain ⟨found, hfound⟩ := p.loaded.tile.exists_looksUp
  rw [outsideLines_eq hfound] at h
  split at h
  · obtain rfl := List.mem_singleton.1 h
    exact .noneOutside
  · obtain ⟨e, -, hline⟩ := List.mem_flatMap.1 h
    rcases List.mem_cons.1 hline with rfl | hline
    · exact .outsideCount _ _
    · obtain ⟨x, -, rfl⟩ := List.mem_map.1 hline
      exact .outside _ _

/-- The text that there are no points outside the extent is that of one line. -/
theorem text_mem_lines : "No points outside the layer extent" ∈ p.lines.map Line.text ↔
    Line.noneOutside ∈ p.outsideLines := by
  have hlines : p.lines = p.header ++ p.outsideLines := rfl
  rw [hlines, List.mem_map]
  constructor
  · rintro ⟨line, hline, htext⟩
    rcases List.mem_append.1 hline with hline | hline
    · obtain ⟨hprobes, hne⟩ := of_mem_header hline
      exact absurd (hprobes.text_eq_iff.1 htext) hne
    · obtain rfl := (probes_of_mem_outsideLines hline).text_eq_iff.1 htext
      exact hline
  · exact fun hline => ⟨_, List.mem_append_right _ hline, rfl⟩

/-- It is said that there are none just if none are looked up. -/
theorem noneOutside_mem_iff (h : p.loaded.tile.LooksUp found) :
    Line.noneOutside ∈ p.outsideLines ↔ found = [] := by
  rw [outsideLines_eq h]
  split
  · next hfound => simp [hfound]
  · next hfound => simp [hfound]

/-- No field of a probe comes twice. -/
theorem nodup_ofProbe (tile layers outside : Json) (p : Probe) :
    (([("source", Json.text p.source), ("tile", tile), ("layers", layers),
      ("outside_extent", outside)] ++ Json.metadataField p.metadata).map (·.1)).Nodup := by
  rw [Json.metadataField]
  split <;> simp

/-- The texts of a probe end with those about the points outside the extent. -/
theorem text_lines (h : p.loaded.tile.LooksUp found) : p.lines.map Line.text
    = p.header.map Line.text ++ if found = [] then ["No points outside the layer extent"] else
      found.flatMap fun e => s!"{e.1}: {e.2.length} point(s) outside the extent"
        :: e.2.map fun x => (Line.outside x.1.point x.2).text := by
  have hlines : p.lines = p.header ++ p.outsideLines := rfl
  rw [hlines, List.map_append, outsideLines_eq h]
  refine congrArg _ ?_
  split
  · rfl
  · rw [List.map_flatMap]
    simp only [List.map_cons, List.map_map]
    rfl

/-- The field of the points outside the extent has a field for each layer that has one. -/
theorem field?_outside (h : p.loaded.tile.LooksUp found) :
    (Json.ofProbe p).field? "outside_extent" = some (.object (found.map fun e =>
      (e.1, .array (e.2.map fun x => Json.ofOutside x.1 x.2)))) := by
  rw [Json.ofProbe, Json.field?_record (nodup_ofProbe _ _ _ p), h.mapOutside_eq, List.map_map]
  rfl

/-- **A probe shows just the points outside the extent, in both forms.** A layer lists every
coordinate of a point feature that is not in its square, by feature and then in the order of the
geometry, and nothing else; a tile lists the layers that have one. The way back from a listed point
to its feature does not fail, whatever is made of the two, and both forms of the probe show the same
features and points in the same order: behind its header the text has a count for each layer and a
line for each point, and the JSON form a field for each layer and an item for each point. The line
has the point and tells the feature, and the item has the place of the feature, its id and the point.
The text says that there are none just if the object of the JSON form has no fields. -/
theorem outside_exact (p : Probe) :
    (∀ l : Layer, ∃ spots : List Spot, spots.map Spot.listed = l.outside ∧
      spots.Pairwise Spot.Before ∧ ∀ s, s ∈ spots ↔ l.HasOutside s) ∧
    (∀ name points, p.loaded.tile.outside.get? name = some points ↔
      ∃ l, p.loaded.tile.layers.get? name = some l ∧ l.outside = points ∧ points ≠ []) ∧
    (∃ (found : OutsideFeatures) (header : List String)
      (line : OutsidePoint × Feature → String) (item : OutsidePoint × Feature → Json),
      p.loaded.tile.LooksUp found ∧
      (∀ (β : Type) (f : OutsidePoint → Feature → β), p.loaded.tile.mapOutside? f
        = some (found.map fun e => (e.1, e.2.map fun x => f x.1 x.2))) ∧
      (∀ e ∈ found, ∀ x ∈ e.2, ShownOutside x (line x) (item x)) ∧
      header.length = p.loaded.tile.layers.size + 3 ∧
      (p.lines.map Line.text = header ++
        if found = [] then ["No points outside the layer extent"] else found.flatMap fun e =>
          s!"{e.1}: {e.2.length} point(s) outside the extent" :: e.2.map line) ∧
      (Json.ofProbe p).field? "outside_extent"
        = some (.object (found.map fun e => (e.1, .array (e.2.map item))))) ∧
    ("No points outside the layer extent" ∈ p.lines.map Line.text ↔
      (Json.ofProbe p).field? "outside_extent" = some (.object [])) := by
  obtain ⟨found, hfound⟩ := p.loaded.tile.exists_looksUp
  refine ⟨fun l => ⟨l.spots, l.map_listed_spots, l.pairwise_spots, fun _ => Layer.mem_spots⟩,
    fun name points => Tile.get?_outside, ⟨found, p.header.map Line.text, _, _, hfound,
      fun β f => hfound.mapOutside?_eq f, fun _ _ x _ => shownOutside x, ?_, text_lines hfound,
      field?_outside hfound⟩, ?_⟩
  · rw [List.length_map, length_header]
  · rw [text_mem_lines, noneOutside_mem_iff hfound, field?_outside hfound]
    simp

end Probe

end TileScope
