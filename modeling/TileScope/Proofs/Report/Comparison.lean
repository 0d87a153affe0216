import TileScope.Proofs.Report.Grouping
import TileScope.Proofs.Report.Label
import TileScope.Proofs.Report.Wording

/-!
# A comparison accounts for everything

The matches of a report come to the comparison as texts: they are grouped by label, and an id is
missing if no group has its label. Nothing gets lost on the way (`Report.comparison_accounts`):

| of the report | in the lines |
| --- | --- |
| an id of the search, found | one heading with the id |
| an id of the search, not found | one line that it is missing |
| a match | one line with its tile, its layer and its place, below the heading of its label |

Below one heading all features have the same id, or all have none. It takes that labels tell ids
apart and that no feature is listed twice. A line is what is written with one line end, whatever the
names in it hold.
-/

namespace TileScope

/-- A group of a comparison. -/
structure LabelGroup where
  label : String
  places : List Placement

/-- The heading, and a line for each place. -/
def LabelGroup.lines (g : LabelGroup) : List String :=
  s!"{g.label} seen in {g.places.length} tile(s):" :: g.places.map fun p => s!"  {p.text}"

/-- The label of a heading. -/
def Line.label? : Line → Option String
  | .heading label _ => some label
  | _ => none

/-- The id that a line says is missing. -/
def Line.missing? : Line → Option UInt64
  | .missing id => some id
  | _ => none

namespace Report

/-- Every scanned tile of the report was searched for the query. -/
def SearchedFor (r : Report) (query : Query) : Prop :=
  ∀ key tile, r.outcomes.get? key = some (.scanned tile) → tile.SearchedFor query

/-- A scanned tile has a feature with the id, in a layer that is looked at. -/
def HasId (r : Report) (only : Option String) (id : UInt64) : Prop :=
  ∃ key tile layer m, r.outcomes.get? key = some (.scanned tile) ∧ only.all (· = layer) = true ∧
    tile.tile.Has layer m ∧ m.feature.id = some id

/-- Groups have the matches of a report, each once and under its label, which is what its feature is
called. The line of a match tells its tile, its layer and where in it. -/
structure GroupedAs (r : Report) (groups : List LabelGroup) : Prop where
  labels : (groups.map (·.label)).Nodup
  label : ∀ g ∈ groups, ∀ p ∈ g.places, p.found.feature.label = g.label
  called : ∀ g ∈ groups, ∀ p ∈ g.places, p.found.feature.Called g.label
  told : ∀ g ∈ groups, ∀ p ∈ g.places, p.Told p.text
  ids : ∀ g ∈ groups, ∀ p ∈ g.places, ∀ q ∈ g.places, p.found.feature.id = q.found.feature.id
  once : (groups.flatMap (·.places)).Nodup
  mem : ∀ p, p ∈ groups.flatMap (·.places) ↔ r.Lists p
  total : (groups.flatMap (·.places)).length = r.totalMatches

variable {r : Report} {query : Query} {p : Placement} {id : UInt64}

/-! ## Matches -/

/-- A report of tiles searched for a query is one of searched tiles. -/
theorem SearchedFor.searched (h : r.SearchedFor query) : r.Searched :=
  fun key tile hget => ⟨query, h key tile hget⟩

/-- What is listed is what the scanned tiles have that is looked for. -/
theorem SearchedFor.lists_iff (h : r.SearchedFor query) : r.Lists p ↔
    ∃ tile, r.outcomes.get? p.key = some (.scanned tile) ∧
      (query.run tile.tile).Lists p.layer p.found := by
  simp only [Lists, get?_found, Option.map_eq_some_iff, get?_scanned]
  constructor
  · rintro ⟨_, ⟨tile, hget, rfl⟩, hlists⟩
    exact ⟨tile, hget, (h _ _ hget).found_eq ▸ hlists⟩
  · rintro ⟨tile, hget, hlists⟩
    exact ⟨_, ⟨tile, hget, rfl⟩, (h _ _ hget).found_eq ▸ hlists⟩

/-- No match has two places. -/
theorem SearchedFor.nodup_placements (h : r.SearchedFor query) : r.placements.Nodup := by
  rw [placements_eq]
  refine OrderedMap.nodup_flatMap (fun key (layers : LayerMatches) =>
    layers.listed.map fun m => (⟨key, m.1, m.2⟩ : Placement)) Placement.key
    (fun e _ p hp => ?_) fun e he => ?_
  · obtain ⟨m, -, rfl⟩ := List.mem_map.1 hp
    rfl
  · have hfound : r.found.get? e.1 = some e.2 := OrderedMap.get?_eq_some_iff.2 he
    rw [get?_found, Option.map_eq_some_iff] at hfound
    obtain ⟨tile, hscanned, hfound⟩ := hfound
    rw [← hfound]
    refine (h _ _ (get?_scanned.1 hscanned)).nodup_listed.map fun a b hab => ?_
    obtain ⟨-, hlayer, hmatch⟩ := Placement.mk.inj hab
    exact Prod.ext hlayer hmatch

/-- An id of a search heads a group just if a scanned tile has it. -/
theorem SearchedFor.idLabel_mem_iff (h : r.SearchedFor query) (hid : id ∈ query.ids) :
    idLabel id ∈ r.groups.keys ↔ r.HasId query.layer id := by
  rw [mem_keys_groups]
  constructor
  · rintro ⟨p, hp, hlabel⟩
    obtain ⟨tile, hget, hlists⟩ := h.lists_iff.1 hp
    obtain ⟨hhas, honly, -⟩ := Tile.lists_collect.1 hlists
    exact ⟨p.key, tile, p.layer, p.found, hget, honly, hhas, Feature.label_eq_idLabel_iff.1 hlabel⟩
  · rintro ⟨key, tile, layer, m, hget, honly, hhas, hm⟩
    refine ⟨⟨key, layer, m⟩, h.lists_iff.2 ⟨tile, hget, Tile.lists_collect.2 ⟨hhas, honly, ?_⟩⟩,
      Feature.label_of_id hm⟩
    rw [Feature.hasId, hm, Option.any_some, OrderedSet.contains_iff_mem.2 hid, Bool.true_or]

/-! ## Groups -/

/-- The groups of a report, as they are written. -/
def labelGroups (r : Report) : List LabelGroup := r.groups.entries.map fun e => ⟨e.1, e.2⟩

/-- A group has the matches with its label. -/
theorem mem_places_labelGroups {g : LabelGroup} (hg : g ∈ r.labelGroups) :
    p ∈ g.places ↔ r.Lists p ∧ p.found.feature.label = g.label := by
  obtain ⟨e, he, rfl⟩ := List.mem_map.1 hg
  rw [places_of_mem_groups he, List.mem_filter, mem_placements, decide_eq_true_eq]

/-- All groups together have the matches of the report. -/
theorem mem_flatMap_places : p ∈ r.labelGroups.flatMap (·.places) ↔ r.Lists p := by
  rw [List.mem_flatMap]
  constructor
  · rintro ⟨g, hg, hp⟩
    exact ((mem_places_labelGroups hg).1 hp).1
  · intro hp
    obtain ⟨e, he, hlabel⟩ := List.mem_map.1 (mem_keys_groups.2 ⟨p, hp, rfl⟩)
    have hg : ⟨e.1, e.2⟩ ∈ r.labelGroups := List.mem_map_of_mem he
    exact ⟨_, hg, (mem_places_labelGroups hg).2 ⟨hp, hlabel.symm⟩⟩

/-- No match is in two groups, or in one twice. -/
theorem nodup_flatMap_places (h : r.placements.Nodup) :
    (r.labelGroups.flatMap (·.places)).Nodup := by
  rw [labelGroups, List.flatMap_map]
  refine OrderedMap.nodup_flatMap (fun _ places => places) (·.found.feature.label)
    (fun e he p hp => ?_) fun e he => ?_
  · rw [places_of_mem_groups he, List.mem_filter, decide_eq_true_eq] at hp
    exact hp.2
  · rw [places_of_mem_groups he]
    exact h.filter _

/-- The groups of a report are its matches by label. -/
theorem SearchedFor.groupedAs (h : r.SearchedFor query) : r.GroupedAs r.labelGroups where
  labels := by
    rw [labelGroups, List.map_map]
    exact r.groups.nodup_keys
  label g hg p hp := ((mem_places_labelGroups hg).1 hp).2
  called g hg p hp := ((mem_places_labelGroups hg).1 hp).2 ▸ p.found.feature.called_label
  told g hg p hp := p.told_text
  ids g hg p hp q hq := Feature.id_eq_of_label_eq
    (((mem_places_labelGroups hg).1 hp).2.trans ((mem_places_labelGroups hg).1 hq).2.symm)
  once := nodup_flatMap_places h.nodup_placements
  mem p := mem_flatMap_places
  total := by
    have hperm : (r.labelGroups.flatMap (·.places)).Perm r.placements :=
      (List.perm_ext_iff_of_nodup (nodup_flatMap_places h.nodup_placements)
        h.nodup_placements).2 fun p => by rw [mem_flatMap_places, mem_placements]
    rw [hperm.length_eq, length_placements, h.searched.totalMatches_eq]

/-! ## Lines -/

/-- Every line of a comparison is of one of its kinds. -/
theorem compares_of_mem {line : Line} (h : line ∈ r.comparison query) : line.Compares := by
  simp only [comparison, List.mem_append, List.mem_cons, List.not_mem_nil, or_false, List.mem_map,
    List.mem_flatMap] at h
  rcases h with
    ((((((rfl | rfl | rfl) | ⟨e, -, rfl⟩) | rfl) | ⟨e, he, rfl | ⟨p, -, rfl⟩⟩) | ⟨id, -, rfl⟩) |
      (rfl | rfl))
  · exact .source _ _
  · exact .search _
  · exact .blank
  · exact .status _ _
  · exact .blank
  · obtain ⟨p, -, hlabel⟩ := mem_keys_groups.1 (List.mem_map_of_mem he)
    rw [← hlabel]
    exact .heading _ _
  · exact .placement _
  · exact .missing _
  · exact .blank
  · exact .summary _ _ _ _

/-- The headings of a comparison are the labels of its groups. -/
theorem filterMap_label?_comparison (r : Report) (query : Query) :
    (r.comparison query).filterMap Line.label? = r.groups.keys := by
  simp only [comparison, summary, OrderedMap.keys, List.filterMap_append, List.filterMap_cons,
    List.filterMap_flatMap, List.filterMap_map, Line.label?, Function.comp_def]
  simp [List.map_eq_flatMap]

/-- The lines for missing ids are one for each of them, in order. -/
theorem filterMap_missing?_comparison (r : Report) (query : Query) :
    (r.comparison query).filterMap Line.missing? = r.missingIds query := by
  simp [comparison, summary, List.filterMap_cons, List.filterMap_flatMap, List.filterMap_map,
    Line.missing?, Function.comp_def]

/-- There are as many headings for an id as there are groups with its label. -/
theorem countP_startsWith (r : Report) (query : Query) (id : UInt64) :
    ((r.comparison query).map Line.text).countP (·.startsWith (headingStart id))
      = r.groups.keys.count (idLabel id) := by
  rw [List.countP_map, ← filterMap_label?_comparison r query, List.count_filterMap]
  refine List.countP_congr fun line hline => ?_
  rw [Function.comp_apply, (compares_of_mem hline).startsWith_iff]
  cases line <;> simp [Line.label?]

/-- There are as many lines that an id is missing as it is missing times. -/
theorem count_missingText (r : Report) (query : Query) (id : UInt64) :
    ((r.comparison query).map Line.text).count (missingText id)
      = (r.missingIds query).count id := by
  rw [List.count, List.countP_map, ← filterMap_missing?_comparison r query, List.count_filterMap]
  refine List.countP_congr fun line hline => ?_
  rw [Function.comp_apply, beq_iff_eq, (compares_of_mem hline).text_eq_iff]
  cases line <;> simp [Line.missing?]

/-- The missing ids are those asked for that have no group. -/
theorem mem_missingIds : id ∈ r.missingIds query ↔ id ∈ query.ids ∧ idLabel id ∉ r.groups.keys := by
  have hcontains : r.groups.contains (idLabel id) = true ↔ idLabel id ∈ r.groups.keys := by
    rw [OrderedMap.contains, Option.isSome_iff_exists, OrderedMap.mem_keys_iff]
  rw [missingIds, List.mem_filter, ← hcontains, OrderedSet.mem_def]
  simp [idLabel]

/-- Every id of a search has one heading or is missing once. -/
theorem count_id (r : Report) {query : Query} (hid : id ∈ query.ids) :
    r.groups.keys.count (idLabel id) + (r.missingIds query).count id = 1 := by
  have hnodup : (r.missingIds query).Nodup :=
    (query.ids.ascending.imp ne_of_compare_lt).filter _
  by_cases hgroup : idLabel id ∈ r.groups.keys
  · rw [List.count_eq_one_of_mem r.groups.nodup_keys hgroup,
      List.count_eq_zero_of_not_mem fun hmissing => (mem_missingIds.1 hmissing).2 hgroup]
  · rw [List.count_eq_zero_of_not_mem hgroup,
      List.count_eq_one_of_mem hnodup (mem_missingIds.2 ⟨hid, hgroup⟩)]

/-- An id asked for is reported as missing if no feature has it. -/
theorem SearchedFor.missingText_mem_iff (h : r.SearchedFor query) (hid : id ∈ query.ids) :
    missingText id ∈ (r.comparison query).map Line.text ↔ ¬r.HasId query.layer id := by
  rw [← List.count_pos_iff, count_missingText, List.count_pos_iff, mem_missingIds,
    h.idLabel_mem_iff hid, and_iff_right hid]

/-- The lines in front of the groups. -/
def header (r : Report) (query : Query) : List Line :=
  [.source r.source r.metadata, .search query, .blank]
    ++ r.outcomes.entries.map (fun e => .status e.1 e.2) ++ [.blank]

/-- In front of the groups are a line for each tile and four more. -/
theorem length_header (r : Report) (query : Query) :
    (r.header query).length = r.outcomes.size + 4 := by
  simp [header, OrderedMap.size]

/-- A comparison is written as its header, its groups, the missing ids and its summary. -/
theorem text_comparison (r : Report) (query : Query) : (r.comparison query).map Line.text
    = (r.header query).map Line.text ++ r.labelGroups.flatMap LabelGroup.lines
      ++ (r.missingIds query).map missingText ++ ["", r.summary.text] := by
  rw [comparison, ← header, List.map_append, List.map_append, List.map_append, List.map_flatMap,
    List.map_map, labelGroups, List.flatMap_map]
  simp only [List.map_cons, List.map_map]
  rfl

/-- **A comparison accounts for every id and every match.** Scans search their tiles for the query.
For every report whose scanned tiles were searched for a query, in the lines of its comparison: each
id of the query either heads one group or is said to be missing once, the latter just if no scanned
tile has a feature with the id in a layer that is looked at; and between the header and the missing
ids, which are ids of the query, there are groups that have every match once, under its label, with
one id below each heading. Labels tell features apart that have different ids, or of which one has
none. -/
theorem comparison_accounts :
    (∀ (s : Store) (cancelled : Bool) (keys : List TileKey) (query : Query),
      (s.scan cancelled keys query).SearchedFor query) ∧
    (∀ (r : Report) (query : Query), r.SearchedFor query →
      let lines := (r.comparison query).map Line.text
      (∀ id ∈ query.ids,
        lines.countP (·.startsWith (headingStart id)) + lines.count (missingText id) = 1 ∧
        (missingText id ∈ lines ↔ ¬r.HasId query.layer id)) ∧
      ∃ (header : List String) (groups : List LabelGroup) (missing : List UInt64)
        (footer : List String),
        lines = header ++ groups.flatMap LabelGroup.lines ++ missing.map missingText ++ footer ∧
        header.length = r.outcomes.size + 4 ∧ footer.length = 2 ∧ (∀ id ∈ missing, id ∈ query.ids) ∧
        r.GroupedAs groups) ∧
    ∀ f g : Feature, f.label = g.label → f.id = g.id := by
  refine ⟨fun s cancelled keys query key tile => Store.searchedFor_of_scan,
    fun r query h => ⟨fun id hid => ⟨?_, h.missingText_mem_iff hid⟩, ?_⟩,
    fun f g => Feature.id_eq_of_label_eq⟩
  · rw [countP_startsWith, count_missingText, count_id r hid]
  · refine ⟨_, _, _, _, text_comparison r query, ?_, rfl, fun id hid => (mem_missingIds.1 hid).1,
      h.groupedAs⟩
    rw [List.length_map, length_header]

/-- A tile in which one id of two is found, twice. -/
theorem comparison_accounts_oneTile :
    let west : TileKey := ⟨1, 0, 0, by decide, by decide, by decide⟩
    let bytes := ofOctets [0x1a, 0x1b, 0x0a, 0x01, 0x61, 0x12, 0x09, 0x08, 0x07, 0x18, 0x01, 0x22,
      0x03, 0x09, 0x02, 0x04, 0x12, 0x09, 0x08, 0x07, 0x18, 0x01, 0x22, 0x03, 0x09, 0x06, 0x08,
      0x78, 0x02]
    let query : Query := { ids := .ofList [7, 99] }
    let r := (Store.oneTile west bytes (.error (.notFound west))).scan false [west] query
    let lines := (r.comparison query).map Line.text
    r.groups.keys = ["#7"] ∧ r.totalMatches = 2 ∧
      lines.countP (·.startsWith (headingStart 7)) + lines.count (missingText 7) = 1 ∧
      lines.countP (·.startsWith (headingStart 99)) + lines.count (missingText 99) = 1 := by
  intro west bytes query r lines
  have hsearched : r.SearchedFor query := comparison_accounts.1 _ false [west] query
  obtain ⟨hids, -⟩ := comparison_accounts.2.1 r query hsearched
  have hseven : 7 ∈ query.ids := OrderedSet.mem_ofList.2 (by decide)
  have hmissing : 99 ∈ query.ids := OrderedSet.mem_ofList.2 (by decide)
  exact ⟨by decide +kernel, by decide +kernel, (hids 7 hseven).1, (hids 99 hmissing).1⟩

end Report

end TileScope
