import TileScope.Archive.Location
import TileScope.Archive.Session
import TileScope.CommandLine.Plan
import TileScope.Json.Printer
import TileScope.Report.Comparison
import TileScope.Report.Inspection
import TileScope.Report.Probe
import TileScope.Report.ScanJson
import TileScope.Service.Exchange

/-!
# Running commands

A run reads the arguments, then the settings, then starts the log, and then does what the command
says; the first of these that fails ends it. What a run needs of the machine it is given as a
`Host`, so that it can be run on a directory tree in memory just as well.

| exit code | when |
| --- | --- |
| 0 | the report is on the standard output, or help or version was asked for |
| 1 | the problem is on the standard error |
| 2 | the arguments are not understood |
-/

namespace TileScope.CommandLine

/-- What a run needs of the machine. -/
structure Host (m : Type → Type) where
  /-- The home directory of the user. -/
  home : String
  /-- What stands where the settings are. -/
  settingsFile : m Settings.Found
  /-- Makes an empty log file, and the directories that it needs. -/
  startLog : String → m (Except String Unit)
  /-- What stands at a path, for a reader of archives. -/
  archive : String → m Archive.Found
  /-- The way to tile services. -/
  transport : Service.Transport

/-- What a run leaves behind. -/
structure Output where
  exitCode : Nat
  out : String := ""
  err : String := ""
deriving DecidableEq, Repr

/-- The name and version of the program. -/
def versionLine : String := "tileprobe 0.1.0"

/-- A report for machines. -/
def machineText (j : Json) : String := j.pretty ++ "\n"

/-- A text with blanks behind, up to a width. -/
def padded (width : Nat) (s : String) : String := String.ofList (s.toList.rightpad width ' ')

/-- The lines of all settings. -/
def settingsLines (s : Settings) : List String :=
  s.entries.map fun ((name, key), value) =>
    padded 18 (name ++ "." ++ key) ++ " " ++ if value.isEmpty then "(not set)" else value

/-- The lines about the settings file. -/
def settingsFileLines (path : String) (exists? : Bool) : List String :=
  if exists? then [path] else [path, "(file does not exist; defaults are used)"]

/-- The text of some lines. -/
def textOfLines (lines : List String) : String := String.join (lines.map (· ++ "\n"))

/-- The report of an inspection. -/
def InspectPlan.report (p : InspectPlan) (store : Store) (json all : Bool) : String :=
  let report := store.scanRequest false p.request
  if json then machineText (Json.ofReport all report)
  else Line.textOf (report.inspection p.request.query all)

/-- The report of a comparison. -/
def ComparePlan.report (p : ComparePlan) (store : Store) (json : Bool) : String :=
  let report := store.scan false p.keys p.query
  if json then machineText (Json.ofReport false report)
  else Line.textOf (report.comparison p.query)

/-- Fetches a tile for a probe, removes its envelope and decodes it; what fails on the way is a
problem of the tile. -/
def probedTile (store : Store) (key : TileKey) : Except Problem LoadedTile := do
  let stored ← (store.get key).mapError fun e => .tile key (.store e)
  let payload ← (unwrapEnvelope stored).mapError fun e => .tile key (.envelope e)
  let tile ← (Tile.decode (octets payload.bytes)).mapError fun e => .tile key (.decode e)
  return ⟨tile, stored.size, payload.bytes.size⟩

/-- The report of a probe. -/
def probeReport (store : Store) (key : TileKey) (json : Bool) : Except Problem String := do
  let loaded ← probedTile store key
  let metadata := match store.metadata with
    | .ok metadata => metadata
    | .error _ => .empty
  let probe : Probe := ⟨store.description, metadata, key, loaded⟩
  return if json then machineText (Json.ofProbe probe) else Line.textOf probe.lines

namespace Host

variable {m : Type → Type} [Monad m]

/-- Opens a source. -/
def openSource (host : Host m) : Source → ExceptT Problem m Store
  | .archive name => do
    let found ← match Archive.Location.ofName name with
      | .error e => throw (.source (Archive.cannotOpen name (e.message name)))
      | .ok .memory => pure (.file (.database {}))
      | .ok (.file path) => host.archive path
    ExceptT.mk (pure ((Archive.openStore name found).mapError .source))
  | .service base _ => pure (Service.store base (Service.client host.transport))

/-- Starts the log, if there is to be one. -/
def openLog (host : Host m) : Option String → ExceptT Problem m Unit
  | none => pure ()
  | some path =>
    match Path.fileName? path with
    | none => throw (.logging s!"log file path has no file name: {path}")
    | some _ => do
      let started ← host.startLog path
      ExceptT.mk (pure (started.mapError .logging))

/-- Does what a command says and gives its report. -/
def execute (host : Host m) (settings : Settings) (hasFile : Bool) :
    Command → ExceptT Problem m String
  | .inspect i => do
    let plan ← ExceptT.mk (pure (i.plan settings))
    return plan.report (← host.openSource plan.source) i.json i.all
  | .compare c => do
    let plan ← ExceptT.mk (pure (c.plan settings))
    return plan.report (← host.openSource plan.source) c.json
  | .probe p => do
    let source ← ExceptT.mk (pure (p.source.source settings))
    let store ← host.openSource source
    ExceptT.mk (pure (probeReport store p.tile p.json))
  | .listSettings => return textOfLines (settingsLines settings)
  | .showSettingsFile => return textOfLines (settingsFileLines (Settings.file host.home) hasFile)

/-- Reads the settings, starts the log and does what a command says. -/
def perform (host : Host m) (command : Command) : ExceptT Problem m String := do
  let found ← host.settingsFile
  let settings ← ExceptT.mk (pure ((Settings.load host.home found).mapError .settings))
  host.openLog settings.logFile
  host.execute settings found.isSome command

/-- Runs a command line. -/
def run (host : Host m) (arguments : List String) : m Output := do
  match Command.read arguments with
  | .error .displayVersion => return { exitCode := 0, out := versionLine ++ "\n" }
  | .error .displayHelp => return { exitCode := 0 }
  | .error _ => return { exitCode := 2 }
  | .ok command =>
    match ← (host.perform command).run with
    | .ok report => return { exitCode := 0, out := report }
    | .error problem =>
      return { exitCode := 1, err := problem.text (Settings.file host.home) }

end Host

end TileScope.CommandLine
