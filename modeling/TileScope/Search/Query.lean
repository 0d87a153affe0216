import TileScope.Ordered.Set
import TileScope.Text.Casing
import TileScope.Text.Fragment
import TileScope.Tile.Basic

/-!
# Searches

A search is by ids, by a fragment of the name, or by both; a feature that fits either way is found
once. It goes over one layer or over all. Names are compared in lower case. A feature without an
id is never found by id, and one without a name never by name.

The matches of a search are listed by layer name; layers without a match are left out.
-/

namespace TileScope

/-- A feature that was found, with its place in its layer. -/
structure Match where
  index : Nat
  feature : Feature
deriving DecidableEq, Repr

/-- The position of a match that is a single point. -/
def Match.point (m : Match) : Option Point := m.feature.point

/-- Matches by layer. -/
abbrev LayerMatches := OrderedMap String (List Match)

/-- The number of matches in all layers. -/
def LayerMatches.total (m : LayerMatches) : Nat := m.values.flatten.length

namespace Feature

/-- Whether the feature has one of the ids. -/
def hasId (ids : OrderedSet UInt64) (f : Feature) : Bool := f.id.any ids.contains

/-- Whether the name of the feature, in lower case, has a fragment. -/
def nameHas (fragment : String) (f : Feature) : Bool :=
  f.name.any fun name => Text.contains (Text.toLower name) fragment

end Feature

/-- The features of a layer that pass a test, in order. -/
def Layer.matching (test : Feature → Bool) (l : Layer) : List Match :=
  l.features.toList.zipIdx.filterMap fun (f, i) => if test f then some ⟨i, f⟩ else none

namespace Tile

/-- The features that pass a test, in one layer or in all. -/
def collect (t : Tile) (layer : Option String) (test : Feature → Bool) : LayerMatches :=
  t.layers.mapEntries fun name l =>
    if layer.all (· = name) then
      match l.matching test with
      | [] => none
      | hits => some hits
    else none

/-- The features with one of the ids. -/
def find (t : Tile) (ids : OrderedSet UInt64) (layer : Option String) : LayerMatches :=
  t.collect layer (·.hasId ids)

/-- The features whose name has a fragment, whatever the case of either. -/
def findByName (t : Tile) (fragment : String) (layer : Option String) : LayerMatches :=
  t.collect layer (·.nameHas (Text.toLower fragment))

end Tile

/-- A search. -/
structure Query where
  ids : OrderedSet UInt64 := .empty
  /-- A fragment of the name. -/
  name : Option String := none
  /-- The only layer to look in. -/
  layer : Option String := none
deriving DecidableEq, Repr

namespace Query

/-- Whether the search names nothing to look for, so that it finds nothing. -/
def isEmpty (q : Query) : Bool := q.ids.isEmpty && q.name.isNone

/-- Runs the search on a tile. -/
def run (q : Query) (t : Tile) : LayerMatches :=
  let fragment := q.name.map Text.toLower
  t.collect q.layer fun f => f.hasId q.ids || fragment.any fun part => f.nameHas part

/-- What the search looks for, in words. -/
def describe (q : Query) : String :=
  let byId :=
    if q.ids.isEmpty then []
    else ["ids " ++ ", ".intercalate (q.ids.toList.map fun id => toString id.toNat)]
  let byName := q.name.toList.map fun name => s!"name containing \"{name}\""
  let what := match byId ++ byName with
    | [] => "all features"
    | parts => " or ".intercalate parts
  match q.layer with
  | none => what
  | some layer => s!"{what} in layer {layer}"

end Query

end TileScope
