import TileScope.Settings.Basic

/-!
# Tile sources

Tiles come out of an archive file or from a tile service.
-/

namespace TileScope

/-- Where tiles come from. -/
inductive Source where
  | archive (path : String)
  /-- A service by its address, and how many seconds a request may take. -/
  | service (base : String) (timeout : UInt64)
deriving DecidableEq, Repr

/-- The name of a source: the path or the address. -/
def Source.name : Source → String
  | archive path => path
  | service base _ => base

/-- The source in the settings; an archive goes before a service. -/
def Settings.source? (s : Settings) : Option Source :=
  match s.archive, s.service with
  | some path, _ => some (.archive path)
  | none, some base => some (.service base s.timeout)
  | none, none => none

end TileScope
