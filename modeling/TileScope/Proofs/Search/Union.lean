import TileScope.Proofs.Search.Fragment

/-!
# A search by ids and name is both searches together

A search lists what fits it in the layers that it covers (`Query.lists_run`), and to fit a search is
to have one of its ids or a name with its fragment. So the places that it lists in a layer are those
of the search by ids and those of the search by name, each once and in order; the layer that it is
kept to only selects; and it is empty just if it has nothing to look for (`Query.run_union`).
-/

namespace TileScope

/-- The places that are listed under a layer. -/
def LayerMatches.places (found : LayerMatches) (layer : String) : List Nat :=
  ((found.get? layer).getD []).map (·.index)

/-- What is listed under one layer. -/
def LayerMatches.under (found : LayerMatches) (layer : String) : LayerMatches :=
  found.mapEntries fun name hits => if name = layer then some hits else none

/-- The places in a layer are those that are listed with a feature. -/
theorem LayerMatches.mem_places {found : LayerMatches} {layer : String} {i : Nat} :
    i ∈ found.places layer ↔ ∃ f, found.Lists layer ⟨i, f⟩ := by
  unfold places Lists
  cases found.get? layer with
  | none => simp
  | some hits =>
    simp only [Option.getD_some, List.mem_map, Option.some.injEq, exists_eq_left']
    constructor
    · rintro ⟨⟨i, f⟩, hm, rfl⟩
      exact ⟨f, hm⟩
    · rintro ⟨f, hm⟩
      exact ⟨⟨i, f⟩, hm, rfl⟩

/-- The search looks in the layer. -/
def Query.Covers (q : Query) (layer : String) : Prop := ∀ only, q.layer = some only → only = layer

/-- The feature has one of the ids. -/
def Query.FitsId (q : Query) (f : Feature) : Prop := ∃ id ∈ q.ids, f.id = some id

/-- The feature has a name, and the name has the fragment, both in lower case. -/
def Query.FitsName (q : Query) (f : Feature) : Prop :=
  ∃ fragment name, q.name = some fragment ∧ f.name = some name ∧
    Text.contains (Text.toLower name) (Text.toLower fragment) = true

/-- A feature has one of some ids if its own is among them. -/
theorem Feature.hasId_iff {ids : OrderedSet UInt64} {f : Feature} :
    f.hasId ids = true ↔ ∃ id ∈ ids, f.id = some id := by
  simp [hasId, Option.any_eq_true, and_comm]

/-- A name has a fragment if it contains it when put in lower case. -/
theorem Feature.nameHas_iff {fragment : String} {f : Feature} :
    f.nameHas fragment = true ↔
      ∃ name, f.name = some name ∧ Text.contains (Text.toLower name) fragment = true := by
  simp [nameHas, Option.any_eq_true]

namespace Query

variable {q : Query} {t : Tile} {layer : String} {m : Match}

/-- A query asks for a layer if it names it or no layer at all. -/
theorem all_eq_layer_iff : q.layer.all (· = layer) = true ↔ q.Covers layer := by
  rw [Option.all_eq_true]
  simp [Covers]

/-- A query finds in the layers asked for the features that fit an id or the name. -/
theorem lists_run : (q.run t).Lists layer m ↔
    t.Has layer m ∧ q.Covers layer ∧ (q.FitsId m.feature ∨ q.FitsName m.feature) := by
  rw [run, Tile.lists_collect, all_eq_layer_iff, Bool.or_eq_true, Feature.hasId_iff]
  refine and_congr_right fun _ => and_congr_right fun _ => or_congr_right ?_
  rw [FitsName]
  cases q.name with
  | none => simp
  | some fragment => simp [Feature.nameHas_iff]

/-- A search by ids finds in the layers asked for the features that fit one. -/
theorem lists_find : (t.find q.ids q.layer).Lists layer m ↔
    t.Has layer m ∧ q.Covers layer ∧ q.FitsId m.feature := by
  rw [Tile.find, Tile.lists_collect, all_eq_layer_iff, Feature.hasId_iff]
  rfl

/-- A search by name finds in the layers asked for the features that fit it. -/
theorem lists_findByName : (∃ name, q.name = some name ∧
      (t.findByName name q.layer).Lists layer m) ↔
    t.Has layer m ∧ q.Covers layer ∧ q.FitsName m.feature := by
  simp only [Tile.findByName, Tile.lists_collect, all_eq_layer_iff, Feature.nameHas_iff, FitsName]
  grind

/-- What a search lists, one of the two searches lists. -/
theorem lists_run_iff : (q.run t).Lists layer m ↔
    (t.find q.ids q.layer).Lists layer m ∨
      ∃ name, q.name = some name ∧ (t.findByName name q.layer).Lists layer m := by
  rw [lists_run, lists_find, lists_findByName, and_or_left, and_or_left]

/-! ## Places -/

/-- A query finds the places of both searches. -/
theorem mem_places_run {i : Nat} : i ∈ (q.run t).places layer ↔
    i ∈ (t.find q.ids q.layer).places layer ∨
      ∃ name, q.name = some name ∧ i ∈ (t.findByName name q.layer).places layer := by
  simp only [LayerMatches.mem_places, lists_run_iff, exists_or]
  refine or_congr_right ⟨?_, ?_⟩
  · rintro ⟨f, name, hname, hlists⟩
    exact ⟨name, hname, f, hlists⟩
  · rintro ⟨name, hname, f, hlists⟩
    exact ⟨f, name, hname, hlists⟩

/-- The places in a layer ascend. -/
theorem pairwise_places (q : Query) (t : Tile) (layer : String) :
    ((q.run t).places layer).Pairwise (· < ·) := by
  rw [LayerMatches.places]
  cases h : (q.run t).get? layer with
  | none => exact .nil
  | some hits =>
    obtain ⟨l, -, -, hmatching, -⟩ := Tile.get?_collect.1 h
    rw [Option.getD_some, ← hmatching]
    exact Layer.pairwise_index_matching l _

/-- A layer is there if something is listed under it, and not otherwise. -/
theorem contains_run_iff : (q.run t).contains layer = true ↔ (q.run t).places layer ≠ [] := by
  rw [OrderedMap.contains, LayerMatches.places]
  cases h : (q.run t).get? layer with
  | none => simp
  | some hits =>
    obtain ⟨-, -, -, -, hne⟩ := Tile.get?_collect.1 h
    simpa using hne

/-- The layer of a search selects among what is listed without it. -/
theorem run_of_layer (q : Query) (t : Tile) (only : String) :
    { q with layer := some only }.run t = ({ q with layer := none }.run t).under only := by
  refine OrderedMap.ext_get? fun layer => ?_
  simp only [run, Tile.collect, LayerMatches.under, OrderedMap.get?_mapEntries, Option.all_some,
    Option.all_none, if_true, Option.bind_assoc, eq_comm (a := only), decide_eq_true_eq]
  refine Option.bind_congr fun l _ => ?_
  by_cases honly : layer = only
  · simp [honly]
  · simp [honly]

/-! ## Searches for nothing -/

/-- A query has found nothing if no feature is listed. -/
theorem isEmpty_run_iff : (q.run t).isEmpty = true ↔ ∀ layer m, ¬ (q.run t).Lists layer m := by
  rw [OrderedMap.isEmpty_iff]
  constructor
  · rintro h layer m ⟨hits, hget, -⟩
    cases (h layer).symm.trans hget
  · intro h layer
    cases hget : (q.run t).get? layer with
    | none => rfl
    | some hits =>
      obtain ⟨-, -, -, -, hne⟩ := Tile.get?_collect.1 hget
      obtain ⟨m, hm⟩ := List.exists_mem_of_ne_nil hits hne
      exact absurd ⟨hits, hget, hm⟩ (h layer m)

/-- No feature fits an empty query. -/
theorem not_fits_of_isEmpty (h : q.isEmpty = true) (f : Feature) :
    ¬ (q.FitsId f ∨ q.FitsName f) := by
  rw [isEmpty, Bool.and_eq_true, OrderedSet.isEmpty, List.isEmpty_iff, Option.isNone_iff_eq_none]
    at h
  rintro (⟨id, hid, -⟩ | ⟨fragment, -, hfragment, -⟩)
  · rw [OrderedSet.mem_def, h.1] at hid
    cases hid
  · cases h.2.symm.trans hfragment

/-- A search that is not empty finds something: a feature with one of its ids and nothing else, or
one that is named by its fragment. -/
theorem exists_fits (h : q.isEmpty = false) : ∃ f, q.FitsId f ∨ q.FitsName f := by
  rw [isEmpty, Bool.and_eq_false_iff] at h
  rcases h with hids | hname
  · obtain ⟨id, hid⟩ := List.exists_mem_of_ne_nil q.ids.toList fun hnil => by
      rw [OrderedSet.isEmpty, hnil] at hids
      cases hids
    exact ⟨⟨some id, .points [], .empty⟩, .inl ⟨id, hid, rfl⟩⟩
  · obtain ⟨fragment, hfragment⟩ : ∃ fragment, q.name = some fragment := by
      cases hfragment : q.name with
      | none =>
        rw [hfragment] at hname
        cases hname
      | some fragment => exact ⟨fragment, rfl⟩
    have hself : Text.contains (Text.toLower fragment) (Text.toLower fragment) = true :=
      Text.occursIn_iff.2 List.infix_rfl
    exact ⟨.named fragment, .inr ⟨fragment, fragment, hfragment, Feature.name_named _, hself⟩⟩

/-- A query is empty if it finds nothing in any tile. -/
theorem isEmpty_iff_forall_run : q.isEmpty = true ↔ ∀ t, (q.run t).isEmpty = true := by
  constructor
  · intro h t
    exact isEmpty_run_iff.2 fun layer m hlists =>
      not_fits_of_isEmpty h m.feature (lists_run.1 hlists).2.2
  · intro h
    by_contra hempty
    obtain ⟨f, hf⟩ := exists_fits (Bool.eq_false_of_not_eq_true hempty)
    -- The layer of the tile is the one that the search is kept to, if it is.
    let layer := q.layer.getD ""
    have hcovers : q.Covers layer := fun only honly => by
      rw [show layer = q.layer.getD "" from rfl, honly, Option.getD_some]
    exact isEmpty_run_iff.1 (h (.ofFeature layer f)) layer ⟨0, f⟩
      (lists_run.2 ⟨Tile.has_ofFeature layer f, hcovers, hf⟩)

/-- **A search is the union of the searches by ids and by name.** In every tile it lists the
features of the layers it covers that have one of its ids or a name with its fragment, each at its
place. The places under a layer ascend, and are those that the search by ids lists and, if there is
a fragment, those that the search by name lists. A layer without a place is left out, and a search
that is kept to one layer lists what it would list there anyway. It has nothing to look for just if
it lists nothing in any tile. -/
theorem run_union (q : Query) :
    (∀ (t : Tile) (layer : String),
      ((q.run t).places layer).Pairwise (· < ·) ∧
      (∀ i, i ∈ (q.run t).places layer ↔
        i ∈ (t.find q.ids q.layer).places layer ∨
          ∃ name, q.name = some name ∧ i ∈ (t.findByName name q.layer).places layer) ∧
      (∀ m, (q.run t).Lists layer m ↔
        t.Has layer m ∧ q.Covers layer ∧ (q.FitsId m.feature ∨ q.FitsName m.feature)) ∧
      ((q.run t).contains layer = true ↔ (q.run t).places layer ≠ []) ∧
      { q with layer := some layer }.run t = ({ q with layer := none }.run t).under layer) ∧
    (q.isEmpty = true ↔ ∀ t, (q.run t).isEmpty = true) :=
  ⟨fun t layer => ⟨pairwise_places q t layer, fun _ => mem_places_run, fun _ => lists_run,
    contains_run_iff, run_of_layer q t layer⟩, isEmpty_iff_forall_run⟩

end Query

end TileScope
