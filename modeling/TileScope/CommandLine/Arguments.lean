import TileScope.CommandLine.Options

/-!
# Commands

| command | options |
| --- | --- |
| `inspect` | `--tile`, targets, `--neighbors`, `--no-neighbors`, source, `--json`, `--all` |
| `compare` | `--tile` once or more, targets, source, `--json` |
| `probe` | `--tile`, source, `--json` |
| `config list`, `config path` | none |

Targets are `--id`, as often as wanted, `--name` and `--layer`; a source is `--mbtiles` or `--url`,
not both, and `--timeout`. Every command knows `--verbose` and `--help`.
-/

namespace TileScope.CommandLine

/-- What is looked for. -/
structure Targets where
  ids : List UInt64 := []
  name : Option String := none
  layer : Option String := none
deriving DecidableEq, Repr

/-- Where to look, as far as the arguments say. -/
structure SourceChoice where
  archive : Option String := none
  service : Option String := none
  timeout : Option UInt64 := none
deriving DecidableEq, Repr

/-- The arguments of `inspect`. -/
structure Inspect where
  tile : TileKey
  targets : Targets
  /-- Search the tiles around as well. -/
  neighbors : Bool
  /-- Search the tile alone, whatever the settings say. -/
  noNeighbors : Bool
  source : SourceChoice
  json : Bool
  all : Bool
deriving DecidableEq, Repr

/-- The arguments of `compare`. -/
structure Compare where
  tiles : List TileKey
  targets : Targets
  source : SourceChoice
  json : Bool
deriving DecidableEq, Repr

/-- The arguments of `probe`. -/
structure ProbeOne where
  tile : TileKey
  source : SourceChoice
  json : Bool
deriving DecidableEq, Repr

/-- A command with its arguments. -/
inductive Command where
  | inspect (arguments : Inspect)
  | compare (arguments : Compare)
  | probe (arguments : ProbeOne)
  | listSettings
  | showSettingsFile
deriving DecidableEq, Repr

/-- The options that choose a source. -/
def sourceOptions : List OptionName := [.archive, .service, .timeout]

/-- The options that choose targets. -/
def targetOptions : List OptionName := [.id, .name, .layer]

/-- The options of `inspect`. -/
def inspectOptions : List OptionName :=
  [.tile] ++ targetOptions ++ [.neighbors, .noNeighbors] ++ sourceOptions ++ [.json, .all, .help]

/-- The options of `compare`. -/
def compareOptions : List OptionName :=
  [.tile] ++ targetOptions ++ sourceOptions ++ [.json, .help]

/-- The options of `probe`. -/
def probeOptions : List OptionName := [.tile] ++ sourceOptions ++ [.json, .help]

/-- The tiles that were given. -/
def tilesOf (given : List Given) : List TileKey :=
  given.filterMap fun g => match g with
    | .tile key => some key
    | _ => none

/-- The targets that were given. -/
def Targets.ofGiven (given : List Given) : Targets :=
  { ids := given.filterMap fun g => match g with
      | .id id => some id
      | _ => none
    name := given.findSome? fun g => match g with
      | .name name => some name
      | _ => none
    layer := given.findSome? fun g => match g with
      | .layer layer => some layer
      | _ => none }

/-- The source that was given. An archive and a service exclude each other. -/
def SourceChoice.ofGiven (given : List Given) : Except UsageError SourceChoice :=
  let choice : SourceChoice :=
    { archive := given.findSome? fun g => match g with
        | .archive path => some path
        | _ => none
      service := given.findSome? fun g => match g with
        | .service base => some base
        | _ => none
      timeout := given.findSome? fun g => match g with
        | .timeout seconds => some seconds
        | _ => none }
  if choice.archive.isSome && choice.service.isSome then .error .argumentConflict else .ok choice

/-- The only tile that was given. -/
def tileOf (given : List Given) : Except UsageError TileKey :=
  match tilesOf given with
  | key :: _ => .ok key
  | [] => .error .missingRequiredArgument

/-- The arguments of `inspect`. -/
def Inspect.ofGiven (given : List Given) : Except UsageError Inspect := do
  let source ← SourceChoice.ofGiven given
  let tile ← tileOf given
  return {
    tile, source
    targets := .ofGiven given
    neighbors := .neighbors ∈ given
    noNeighbors := .noNeighbors ∈ given
    json := .json ∈ given
    all := .all ∈ given }

/-- The arguments of `compare`. -/
def Compare.ofGiven (given : List Given) : Except UsageError Compare := do
  let source ← SourceChoice.ofGiven given
  let _ ← tileOf given
  return { tiles := tilesOf given, source, targets := .ofGiven given, json := .json ∈ given }

/-- The arguments of `probe`. -/
def ProbeOne.ofGiven (given : List Given) : Except UsageError ProbeOne := do
  let source ← SourceChoice.ofGiven given
  let tile ← tileOf given
  return { tile, source, json := .json ∈ given }

/-- Reads the arguments of `inspect`, with further options that a program knows everywhere. -/
def Inspect.read (everywhere : List OptionName) (arguments : List String) :
    Except UsageError Inspect := do
  Inspect.ofGiven (← readOptions (inspectOptions ++ everywhere) [.id] arguments)

/-- Reads the arguments of `compare`. -/
def Compare.read (everywhere : List OptionName) (arguments : List String) :
    Except UsageError Compare := do
  Compare.ofGiven (← readOptions (compareOptions ++ everywhere) [.id, .tile] arguments)

/-- Reads the arguments of `probe`. -/
def ProbeOne.read (everywhere : List OptionName) (arguments : List String) :
    Except UsageError ProbeOne := do
  ProbeOne.ofGiven (← readOptions (probeOptions ++ everywhere) [] arguments)

/-- The words that name commands, and what each may be followed by. -/
def commandWords : List (String × List String) :=
  [("inspect", []), ("compare", []), ("probe", []), ("config", ["list", "path", "help"]),
    ("help", [])]

/-- Whether help can be given on a row of words. -/
def hasHelp : List String → Bool
  | [] => true
  | [word] => commandWords.any (·.1 = word)
  | [word, next] => commandWords.any fun (first, more) => first = word && next ∈ more
  | _ => false

/-- Reads a command of the settings. -/
def readSettingsCommand : (given : List Given) → List String → Except UsageError Command
  | _, [] => .error .command
  | given, a :: rest =>
    match tokens [.verbose, .help] a.toList with
    | [.word _] =>
      if a = "list" then (readOptions [.verbose, .help] [] rest).map fun _ => .listSettings
      else if a = "path" then (readOptions [.verbose, .help] [] rest).map fun _ => .showSettingsFile
      else if a = "help" then
        .error (if hasHelp ("config" :: rest) then .displayHelp else .command)
      else .error .command
    | [.endOfOptions] => .error .command
    | ts => do
      let r ← ({ given := given } : Reading).run [] ts
      readSettingsCommand r.given rest

/-- Reads a whole command line: options that every command knows, and a command. -/
def readCommand : (given : List Given) → List String → Except UsageError Command
  | _, [] => .error .command
  | given, a :: rest =>
    match tokens [.verbose, .help, .version] a.toList with
    | [.word _] =>
      if a = "inspect" then (Inspect.read [.verbose] rest).map .inspect
      else if a = "compare" then (Compare.read [.verbose] rest).map .compare
      else if a = "probe" then (ProbeOne.read [.verbose] rest).map .probe
      else if a = "config" then readSettingsCommand [] rest
      else if a = "help" then .error (if hasHelp rest then .displayHelp else .command)
      else .error .command
    | [.endOfOptions] => .error .command
    | ts => do
      let r ← ({ given := given } : Reading).run [] ts
      readCommand r.given rest

/-- Reads a command line. -/
def Command.read (arguments : List String) : Except UsageError Command := readCommand [] arguments

end TileScope.CommandLine
