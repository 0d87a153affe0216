/-!
# Settings

What a user may set once and for all. Every setting can be left open; the time limit of requests
is then thirty seconds, and neighbors are not searched.
-/

namespace TileScope

/-- The settings of a user. -/
structure Settings where
  /-- The archive to read tiles from. -/
  archive : Option String := none
  /-- The tile service to ask for tiles, without slashes at its end. -/
  service : Option String := none
  /-- How many seconds a request may take. -/
  timeout : UInt64 := 30
  /-- The layer to search. -/
  layer : Option String := none
  /-- Search the tiles around as well. -/
  neighbors : Bool := false
  /-- The file to log to. -/
  logFile : Option String := none
deriving DecidableEq, Repr

namespace Settings

/-- Every setting by section and key, with its value as text; an open setting has an empty one. -/
def entries (s : Settings) : List ((String × String) × String) :=
  [(("archive", "path"), s.archive.getD ""),
    (("http", "base_url"), s.service.getD ""),
    (("http", "timeout"), toString s.timeout.toNat),
    (("search", "layer"), s.layer.getD ""),
    (("search", "neighbors"), if s.neighbors then "true" else "false"),
    (("logging", "file"), s.logFile.getD "")]

end Settings

end TileScope
