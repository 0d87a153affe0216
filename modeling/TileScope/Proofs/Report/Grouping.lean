import TileScope.Proofs.Scan.Hits
import TileScope.Report.Comparison

/-!
# Matches by label

A comparison puts the matches of a report under headings, one for each label, and a heading gives
the number of lines below it, as a number of tiles. It is one of matches: a heading says how many
tiles there are with its label just if no tile has two matches with it (`Report.heading_counts`).
Ids need not be unique, and two features of one tile with the same id are counted as two tiles
(`Report.heading_two_oneTile`).
-/

namespace TileScope

/-- The number of matches with a label. -/
def LayerMatches.labelled (found : LayerMatches) (label : String) : Nat :=
  found.listed.countP fun m => m.2.feature.label = label

/-- Positive counts add up to their number just if each of them is one. -/
theorem sum_eq_length_iff {l : List Nat} (h : ∀ k ∈ l, 1 ≤ k) :
    l.sum = l.length ↔ ∀ k ∈ l, k ≤ 1 := by
  induction l with
  | nil => simp
  | cons k l ih =>
    obtain ⟨hk, h⟩ := List.forall_mem_cons.1 h
    have hlength := List.length_le_sum_of_one_le l h
    rw [List.forall_mem_cons, ← ih h, List.sum_cons, List.length_cons]
    omega

namespace Report

variable {r : Report} {p : Placement} {label : String}

/-- A match is listed for a tile and a layer. -/
def Lists (r : Report) (p : Placement) : Prop :=
  ∃ layers, r.found.get? p.key = some layers ∧ layers.Lists p.layer p.found

/-- The matches of a report are those of its tiles one after the other. -/
theorem placements_eq (r : Report) : r.placements = r.found.entries.flatMap fun e =>
    e.2.listed.map fun m => ⟨e.1, m.1, m.2⟩ := by
  simp only [placements, LayerMatches.listed, List.map_flatMap, List.map_map, Function.comp_def]

/-- The matches of a report are those listed for its tiles. -/
theorem mem_placements : p ∈ r.placements ↔ r.Lists p := by
  simp only [placements_eq, List.mem_flatMap, List.mem_map, Lists, OrderedMap.get?_eq_some_iff]
  constructor
  · rintro ⟨e, he, m, hm, rfl⟩
    exact ⟨e.2, he, LayerMatches.mem_listed.1 hm⟩
  · rintro ⟨layers, he, hm⟩
    exact ⟨(p.key, layers), he, (p.layer, p.found), LayerMatches.mem_listed.2 hm, rfl⟩

/-- A report has as many matches as its tiles have in all. -/
theorem length_placements (r : Report) :
    r.placements.length = (r.found.values.map LayerMatches.total).sum := by
  rw [placements_eq, List.length_flatMap, OrderedMap.values, List.map_map]
  simp only [List.length_map, LayerMatches.length_listed, Function.comp_def]

/-! ## Groups -/

/-- The labels with a group are those of the matches. -/
theorem mem_keys_groups :
    label ∈ r.groups.keys ↔ ∃ p, r.Lists p ∧ p.found.feature.label = label := by
  rw [groups, OrderedSet.keys_mapTo, ← OrderedSet.mem_def, OrderedSet.mem_ofList, List.mem_map]
  simp only [mem_placements]

/-- A group has all matches with its label, in the order of the report. -/
theorem places_of_mem_groups {places : List Placement} (h : (label, places) ∈ r.groups.entries) :
    places = r.placements.filter (·.found.feature.label = label) :=
  ((OrderedSet.get?_mapTo _).1 (OrderedMap.get?_eq_some_iff.2 h)).2.symm

/-- The headings are those of the groups, each with its number. -/
theorem heading_mem_comparison {query : Query} {n : Nat} :
    Line.heading label n ∈ r.comparison query ↔
      (label, n) ∈ r.groups.entries.map fun e => (e.1, e.2.length) := by
  simp [comparison, summary, @eq_comm Nat n]

/-! ## Tiles of a label -/

/-- The tiles in which features with a label were found, each with their number. -/
def tilesWith (r : Report) (label : String) : OrderedMap TileKey Nat :=
  r.found.mapEntries fun _ layers =>
    if layers.labelled label = 0 then none else some (layers.labelled label)

/-- A tile counts for a label with its number of matches, if there are any. -/
theorem get?_tilesWith {key : TileKey} {k : Nat} : (r.tilesWith label).get? key = some k ↔
    ∃ layers, r.found.get? key = some layers ∧ layers.labelled label = k ∧ k ≠ 0 := by
  rw [tilesWith, OrderedMap.get?_mapEntries, Option.bind_eq_some_iff]
  refine exists_congr fun layers => and_congr_right fun _ => ?_
  split
  · next hzero => simp [hzero, eq_comm]
  · next hne =>
    rw [Option.some.injEq]
    exact ⟨fun h => ⟨h, h ▸ hne⟩, And.left⟩

/-- The tiles of a label are those with a match of it. -/
theorem mem_keys_tilesWith {key : TileKey} : key ∈ (r.tilesWith label).keys ↔
    ∃ layer m, r.Lists ⟨key, layer, m⟩ ∧ m.feature.label = label := by
  simp only [OrderedMap.mem_keys_iff, get?_tilesWith, Lists]
  constructor
  · rintro ⟨_, layers, hlayers, rfl, hne⟩
    obtain ⟨m, hm, hlabel⟩ := List.countP_pos_iff.1 (Nat.pos_of_ne_zero hne)
    exact ⟨m.1, m.2, ⟨layers, hlayers, LayerMatches.mem_listed.1 hm⟩, of_decide_eq_true hlabel⟩
  · rintro ⟨layer, m, ⟨layers, hlayers, hm⟩, hlabel⟩
    refine ⟨_, layers, hlayers, rfl, Nat.ne_of_gt (List.countP_pos_iff.2 ?_)⟩
    exact ⟨(layer, m), LayerMatches.mem_listed.2 hm, decide_eq_true hlabel⟩

/-- The tiles of a label have together as many matches as it has. -/
theorem sum_tilesWith (r : Report) (label : String) : (r.tilesWith label).values.sum
    = (r.placements.filter (·.found.feature.label = label)).length := by
  have hsum := OrderedMap.sum_values_mapEntries (fun (_ : TileKey) (layers : LayerMatches) =>
    if layers.labelled label = 0 then none else some (layers.labelled label)) id r.found
  rw [List.map_id] at hsum
  rw [tilesWith, hsum, ← List.countP_eq_length_filter, placements_eq, List.countP_flatMap]
  refine congrArg List.sum (List.map_congr_left fun e _ => ?_)
  rw [Function.comp_apply, List.countP_map, Option.map_id, id]
  split
  · next hzero => exact hzero.symm
  · rfl

/-- A tile that counts for a label has a match of it. -/
theorem one_le_of_mem_tilesWith {k : Nat} (h : k ∈ (r.tilesWith label).values) : 1 ≤ k := by
  obtain ⟨e, he, rfl⟩ := List.mem_map.1 h
  obtain ⟨_, -, -, hne⟩ := get?_tilesWith.1 (OrderedMap.get?_eq_some_iff.2 he)
  exact Nat.one_le_iff_ne_zero.2 hne

/-- A label has one match a tile at most if no tile has two. -/
theorem forall_tilesWith_le_iff : (∀ k ∈ (r.tilesWith label).values, k ≤ 1) ↔
    ∀ layers ∈ r.found.values, layers.labelled label ≤ 1 := by
  simp only [OrderedMap.values, List.forall_mem_map]
  constructor
  · intro h e he
    by_contra hmany
    have hne : e.2.labelled label ≠ 0 := by omega
    have hget := get?_tilesWith.2 ⟨e.2, OrderedMap.get?_eq_some_iff.2 he, rfl, hne⟩
    exact hmany (h _ (OrderedMap.get?_eq_some_iff.1 hget))
  · intro h e he
    obtain ⟨layers, hlayers, hcount, -⟩ := get?_tilesWith.1 (OrderedMap.get?_eq_some_iff.2 he)
    exact hcount ▸ h _ (OrderedMap.get?_eq_some_iff.1 hlayers)

/-- **A heading counts matches.** For every report and query, the number in a heading is that of the
matches with its label, over all tiles with such a match. That is never less than the number of
these tiles, and it is their number just if no tile has two matches with the label. -/
theorem heading_counts (r : Report) (query : Query) {label : String} {n : Nat}
    (h : Line.heading label n ∈ r.comparison query) :
    (∀ key, key ∈ (r.tilesWith label).keys ↔
      ∃ layer m, r.Lists ⟨key, layer, m⟩ ∧ m.feature.label = label) ∧
    n = (r.tilesWith label).values.sum ∧ (r.tilesWith label).size ≤ n ∧
    (n = (r.tilesWith label).size ↔ ∀ layers ∈ r.found.values, layers.labelled label ≤ 1) := by
  obtain ⟨⟨label, places⟩, hgroup, hheading⟩ := List.mem_map.1 (heading_mem_comparison.1 h)
  cases hheading
  have hsum : places.length = (r.tilesWith label).values.sum := by
    rw [sum_tilesWith, places_of_mem_groups hgroup]
  have hsize : (r.tilesWith label).size = (r.tilesWith label).values.length := by
    rw [OrderedMap.size, OrderedMap.values, List.length_map]
  refine ⟨fun key => mem_keys_tilesWith, hsum, ?_, ?_⟩
  · rw [hsum, hsize]
    exact List.length_le_sum_of_one_le _ fun k => one_le_of_mem_tilesWith
  · rw [hsum, hsize, sum_eq_length_iff fun k => one_le_of_mem_tilesWith, forall_tilesWith_le_iff]

/-- The feature looked for in two tiles, once in each. -/
theorem heading_counts_twoTiles :
    let west : TileKey := ⟨1, 0, 0, by decide, by decide, by decide⟩
    let east : TileKey := ⟨1, 1, 0, by decide, by decide, by decide⟩
    let bytes := ofOctets [0x1a, 0x1b, 0x0a, 0x01, 0x61, 0x12, 0x09, 0x08, 0x09, 0x18, 0x01, 0x22,
      0x03, 0x09, 0x02, 0x04, 0x12, 0x09, 0x08, 0x07, 0x18, 0x01, 0x22, 0x03, 0x09, 0x06, 0x01,
      0x78, 0x02]
    let query : Query := { ids := .ofList [7] }
    let r := (Store.oneTile west bytes (.ok bytes)).scan false [west, east] query
    Line.heading "#7" 2 ∈ r.comparison query ∧ 2 = (r.tilesWith "#7").size := by
  intro west east bytes query r
  have hheading : Line.heading "#7" 2 ∈ r.comparison query :=
    heading_mem_comparison.2 (by decide +kernel)
  have hsingle : ∀ layers ∈ r.found.values, layers.labelled "#7" ≤ 1 := by decide +kernel
  obtain ⟨-, -, -, hcount⟩ := heading_counts r query hheading
  exact ⟨hheading, hcount.2 hsingle⟩

/-- A tile with two features of the same id is counted as two tiles. -/
theorem heading_two_oneTile :
    let west : TileKey := ⟨1, 0, 0, by decide, by decide, by decide⟩
    let bytes := ofOctets [0x1a, 0x1b, 0x0a, 0x01, 0x61, 0x12, 0x09, 0x08, 0x07, 0x18, 0x01, 0x22,
      0x03, 0x09, 0x02, 0x04, 0x12, 0x09, 0x08, 0x07, 0x18, 0x01, 0x22, 0x03, 0x09, 0x06, 0x08,
      0x78, 0x02]
    let query : Query := { ids := .ofList [7] }
    let r := (Store.oneTile west bytes (.error (.notFound west))).scan false [west] query
    Line.heading "#7" 2 ∈ r.comparison query ∧
      (Line.heading "#7" 2).text = "#7 seen in 2 tile(s):" ∧
      (r.tilesWith "#7").keys = [west] ∧ 2 ≠ (r.tilesWith "#7").size := by
  intro west bytes query r
  refine ⟨heading_mem_comparison.2 ?_, ?_, ?_, ?_⟩ <;> decide +kernel

end Report

end TileScope
