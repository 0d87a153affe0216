import TileScope.Scan.Basic
import TileScope.Settings.Load

/-!
# Problems of a run

What keeps a command from giving its report, in words, and what the user might do about it.
-/

namespace TileScope.CommandLine

/-- Why a command gives no report. -/
inductive Problem where
  | settings (e : SettingsError)
  /-- Neither the arguments nor the settings say where tiles come from. -/
  | noSource
  /-- An inspection has nothing to find. -/
  | noTarget
  /-- A comparison has nothing to find. -/
  | noComparison
  | logging (cause : String)
  | source (e : StoreError)
  | tile (key : TileKey) (e : TileError)
deriving DecidableEq

namespace Problem

/-- The problem is one of what was asked for, in the arguments or in the settings. -/
def isOfRequest : Problem → Bool
  | settings _ | noSource | noTarget | noComparison => true
  | _ => false

/-- The wording of a problem. -/
def message : Problem → String
  | settings e => s!"Configuration error: {e.message}"
  | noSource => "Configuration error: no tile source configured"
  | noTarget => "Configuration error: nothing to search for: pass --id, --name or --all"
  | noComparison => "Configuration error: nothing to compare: pass --id or --name"
  | logging cause => s!"Failed to initialize logging: {cause}"
  | source e => s!"Failed to open tile source: {e.message}"
  | tile key e => s!"Tile {key} unavailable: {e.message}"

/-- Lines of advice about a problem, where the settings stand in a file. -/
def advice (settingsFile : String) : Problem → List String
  | source (.io _) =>
    ["", "Make sure the archive exists and is a readable MBTiles (SQLite) file."]
  | tile _ (.store (.notFound _)) =>
    ["", "Tile keys are given in web (XYZ) addressing: zoom/x/y."]
  | p =>
    if p.isOfRequest then
      ["", "Pass --mbtiles <PATH> or --url <BASE>, or set a default source in",
        "  " ++ settingsFile]
    else []

/-- All that is said about a problem. -/
def text (settingsFile : String) (p : Problem) : String :=
  String.join ((("Error: " ++ p.message) :: p.advice settingsFile).map (· ++ "\n"))

end Problem

end TileScope.CommandLine
