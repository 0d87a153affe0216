import TileScope.CommandLine.Arguments
import TileScope.CommandLine.Problem
import TileScope.Source

/-!
# Plans

What a command does is settled by its arguments and, where they leave something open, by the
settings. A plan is what comes of both.
-/

namespace TileScope.CommandLine

/-- The source of a command: the archive of the arguments, then their service, then the source of
the settings. The time limit of the arguments goes before that of the settings. -/
def SourceChoice.source (c : SourceChoice) (settings : Settings) : Except Problem Source :=
  let timeout := c.timeout.getD settings.timeout
  match c.archive, c.service, settings.source? with
  | some path, _, _ => .ok (.archive path)
  | none, some base, _ => .ok (.service base timeout)
  | none, none, some (.service base _) => .ok (.service base timeout)
  | none, none, some (.archive path) => .ok (.archive path)
  | none, none, none => .error .noSource

/-- The query for some targets; the settings may name the layer. -/
def Targets.query (t : Targets) (settings : Settings) : Query :=
  { ids := .ofList t.ids
    name := t.name
    layer := t.layer <|> settings.layer }

/-- What an inspection does. -/
structure InspectPlan where
  source : Source
  request : ScanRequest

/-- The plan of an inspection. -/
def Inspect.plan (i : Inspect) (settings : Settings) : Except Problem InspectPlan := do
  let source ← i.source.source settings
  let query := i.targets.query settings
  if query.isEmpty && !i.all then throw .noTarget
  return {
    source
    request :=
      { center := i.tile
        query
        includeNeighbors := !i.noNeighbors && (i.neighbors || settings.neighbors) } }

/-- What a comparison does. -/
structure ComparePlan where
  source : Source
  keys : List TileKey
  query : Query

/-- The plan of a comparison. -/
def Compare.plan (c : Compare) (settings : Settings) : Except Problem ComparePlan := do
  let query := c.targets.query settings
  if query.isEmpty then throw .noComparison
  return { source := ← c.source.source settings, keys := c.tiles, query }

end TileScope.CommandLine
