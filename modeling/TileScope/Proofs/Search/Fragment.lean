import TileScope.Proofs.Search.Matching
import TileScope.Proofs.Text.Casing

/-!
# Fragments of a name

A search by name looks for the lower-case form of a fragment in the lower-case form of a name, so it
does not tell fragments with one lower-case form apart. A name that has the fragment as it is
written is found if the fragment keeps its capital sigmas there; it is found whatever the name just
if the fragment is settled (`Tile.findsByName_fragment`):

| name | fragment | found |
| --- | --- | --- |
| `ΟΔΟΣ ΠΕΙΡΑΙΩΣ` | `ΟΔΟΣ` | yes: the sigma is final in both |
| `ΑΣΠΡΑ` | `ΣΠ` | yes: a letter behind the sigma belongs to the fragment |
| `ΑΣΠΡΑ` | `ΑΣ` | no: the sigma is final in the fragment only |
-/

namespace TileScope

open Text Text.Casing

/-- A feature without anything but a name. -/
def Feature.named (name : String) : Feature where
  id := none
  geometry := .points []
  properties := ⟨[("name", .text name)], List.pairwise_singleton _ _⟩

/-- A feature with a name alone has that name. -/
theorem Feature.name_named (name : String) : (named name).name = some name := by
  have hget : (named name).properties.get? "name" = some (.text name) :=
    OrderedMap.get?_eq_some_iff.2 (List.mem_singleton_self _)
  rw [Feature.name, hget]

namespace Tile

/-- A tile with one layer of one feature. -/
def ofFeature (layer : String) (f : Feature) : Tile :=
  ⟨[(layer, ⟨2, 4096, #[f]⟩)], List.pairwise_singleton _ _⟩

/-- The tile of one feature has it in its layer, at the first place. -/
theorem has_ofFeature (layer : String) (f : Feature) : (ofFeature layer f).Has layer ⟨0, f⟩ :=
  ⟨⟨2, 4096, #[f]⟩, OrderedMap.get?_eq_some_iff.2 (List.mem_singleton_self _), rfl⟩

/-- The feature is listed by the searches for a fragment of its name: by one through all layers, and
by every query for the fragment, whatever else it looks for, that covers the feature's layer. -/
def FindsByName (t : Tile) (fragment layer : String) (m : Match) : Prop :=
  (t.findByName fragment none).Lists layer m ∧
    ∀ q : Query, q.name = some fragment → q.layer.all (· = layer) = true →
      (q.run t).Lists layer m

variable {t : Tile} {fragment layer name : String} {m : Match}

/-- A feature with a name is found if its name contains the fragment, both in lower case. -/
theorem findsByName_iff (hhas : t.Has layer m) (hname : m.feature.name = some name) :
    t.FindsByName fragment layer m ↔ Text.contains (toLower name) (toLower fragment) = true := by
  have htest : m.feature.nameHas (toLower fragment)
      = Text.contains (toLower name) (toLower fragment) := by
    rw [Feature.nameHas, hname, Option.any_some]
  constructor
  · rintro ⟨hlists, -⟩
    rw [findByName, lists_collect, htest] at hlists
    exact hlists.2.2
  · intro h
    refine ⟨?_, fun q hq hlayer => ?_⟩
    · rw [findByName, lists_collect, htest]
      exact ⟨hhas, rfl, h⟩
    · rw [Query.run, lists_collect, hq, Option.map_some, Option.any_some, htest, h, Bool.or_true]
      exact ⟨hhas, hlayer, rfl⟩

/-- Texts are compared as lists of characters in lower case. -/
theorem contains_toLower (whole part : String) : Text.contains (toLower whole) (toLower part)
    = occursIn (lowerAfter [] part.toList) (lowerAfter [] whole.toList) := by
  rw [Text.contains, toLower, toLower, String.toList_ofList, String.toList_ofList]

/-- A query for a name alone is a search by name. -/
theorem run_of_name (t : Tile) (fragment : String) (only : Option String) :
    ({ name := some fragment, layer := only } : Query).run t = t.findByName fragment only := by
  have hid : ∀ f : Feature, f.hasId .empty = false := fun f => by
    rw [Feature.hasId]
    cases f.id <;> rfl
  simp only [Query.run, findByName, hid, Bool.false_or, Option.map_some, Option.any_some]

/-- **When a name that has a fragment is found.** For every fragment: every feature whose name has
the fragment in a place where the fragment keeps its capital sigmas is listed; all features whose
name has the fragment somewhere are listed, in every tile, just if the fragment is settled; any text
with the same lower-case form does for the fragment. -/
theorem findsByName_fragment (fragment : String) :
    (∀ (t : Tile) (layer : String) (m : Match) (name : String) (before behind : List Char),
      t.Has layer m → m.feature.name = some name →
      name.toList = before ++ fragment.toList ++ behind →
      KeepsSigmas before.reverse behind fragment.toList → t.FindsByName fragment layer m) ∧
    ((∀ (t : Tile) (layer : String) (m : Match) (name : String),
      t.Has layer m → m.feature.name = some name → fragment.toList <:+: name.toList →
      t.FindsByName fragment layer m) ↔ Settled fragment.toList) ∧
    ∀ other, toLower other = toLower fragment → ∀ (t : Tile) (only : Option String) (q : Query),
      t.findByName other only = t.findByName fragment only ∧
      ({ q with name := some other } : Query).run t
        = ({ q with name := some fragment } : Query).run t := by
  refine ⟨fun t layer m name before behind hhas hname hplace hkeeps => ?_, ?_,
    fun other hother t only q => ⟨?_, ?_⟩⟩
  · rw [findsByName_iff hhas hname, contains_toLower, hplace]
    exact occursIn_lower_of_keepsSigmas hkeeps
  · rw [← occursIn_lower_iff_settled]
    constructor
    · intro h n hpart
      let f := Feature.named (String.ofList n)
      have hhas : (ofFeature "" f).Has "" ⟨0, f⟩ := has_ofFeature "" f
      have hname : f.name = some (String.ofList n) := Feature.name_named _
      have hlisted := h _ _ _ _ hhas hname (by rwa [String.toList_ofList])
      rwa [findsByName_iff hhas hname, contains_toLower, String.toList_ofList] at hlisted
    · intro h t layer m name hhas hname hpart
      rw [findsByName_iff hhas hname, contains_toLower]
      exact h _ hpart
  · rw [findByName, findByName, hother]
  · simp only [Query.run, Option.map_some, hother]

/-- A street with a final sigma in capitals, found by its first word in capitals, and also in small
letters. -/
theorem findsByName_fragment_street :
    let f := Feature.named "ΟΔΟΣ ΠΕΙΡΑΙΩΣ"
    let t := ofFeature "streets" f
    t.FindsByName "ΟΔΟΣ" "streets" ⟨0, f⟩ ∧
      t.findByName "οδος" none = t.findByName "ΟΔΟΣ" none ∧ ¬Settled "ΟΔΟΣ".toList := by
  intro f t
  obtain ⟨hkept, -, hsame⟩ := findsByName_fragment "ΟΔΟΣ"
  refine ⟨?_, (hsame "οδος" (by decide +kernel) t none {}).1, by decide +kernel⟩
  exact hkept t "streets" ⟨0, f⟩ "ΟΔΟΣ ΠΕΙΡΑΙΩΣ" [] " ΠΕΙΡΑΙΩΣ".toList (has_ofFeature _ _)
    (Feature.name_named _) (by decide +kernel) (by decide +kernel)

/-- A name that has a fragment as it is written is not always found: a sigma at the end of the
fragment is final there, and in the name it is not. -/
theorem not_findsByName_sigma :
    let f := Feature.named "ΑΣΠΡΑ"
    let t := ofFeature "places" f
    t.Has "places" ⟨0, f⟩ ∧ f.name = some "ΑΣΠΡΑ" ∧ "ΑΣ".toList <:+: "ΑΣΠΡΑ".toList ∧
      ¬(t.findByName "ΑΣ" none).Lists "places" ⟨0, f⟩ ∧
      ¬(({ name := some "ΑΣ" } : Query).run t).Lists "places" ⟨0, f⟩ := by
  intro f t
  have htest : f.nameHas (toLower "ΑΣ") = false := by decide +kernel
  have hmissed : ¬(t.findByName "ΑΣ" none).Lists "places" ⟨0, f⟩ := by
    intro hlists
    have hfound : f.nameHas (toLower "ΑΣ") = true := (lists_collect.1 hlists).2.2
    exact Bool.false_ne_true (htest.symm.trans hfound)
  refine ⟨has_ofFeature _ _, Feature.name_named _, ⟨[], "ΠΡΑ".toList, by decide⟩, hmissed, ?_⟩
  rwa [run_of_name]

end Tile

end TileScope
