import TileScope.Grid.Notation

/-!
# Options

An argument list is read in two steps. First every argument is looked at on its own, which gives
tokens; then the tokens are read from left to right, which gives the settings that they make.

| argument | tokens |
| --- | --- |
| `--` | the end of the options |
| `--name`, `--name=value` | an option, or an unknown one |
| `-ab` | two options in short, either of which may be unknown |
| anything else | a word |

An option that takes a value takes the next word, unless the value is attached. It is settled, and
found good or bad, when the next option comes or the list ends; an unknown argument before that is
reported in its stead.
-/

namespace TileScope.CommandLine

/-- The options of all commands. -/
inductive OptionName where
  | tile
  | id
  | name
  | layer
  | neighbors
  | noNeighbors
  | archive
  | service
  | timeout
  | json
  | all
  | verbose
  | help
  | version
deriving DecidableEq, Repr

namespace OptionName

/-- The long spelling of an option. -/
def spelling : OptionName → List Char
  | tile => "tile".toList
  | id => "id".toList
  | name => "name".toList
  | layer => "layer".toList
  | neighbors => "neighbors".toList
  | noNeighbors => "no-neighbors".toList
  | archive => "mbtiles".toList
  | service => "url".toList
  | timeout => "timeout".toList
  | json => "json".toList
  | all => "all".toList
  | verbose => "verbose".toList
  | help => "help".toList
  | version => "version".toList

/-- The short spelling of an option. -/
def letter? : OptionName → Option Char
  | verbose => some 'v'
  | help => some 'h'
  | version => some 'V'
  | _ => none

/-- The option takes a value. -/
def takesValue : OptionName → Bool
  | tile | id | name | layer | archive | service | timeout => true
  | _ => false

end OptionName

/-- What is wrong with an argument list. -/
inductive UsageError where
  /-- An argument that is no option, or a word that nothing takes. -/
  | unknownArgument
  /-- An option without its value. -/
  | invalidValue
  /-- A value of the wrong form. -/
  | valueValidation
  /-- An option given twice, or together with one that excludes it. -/
  | argumentConflict
  /-- A value attached to an option that takes none. -/
  | tooManyValues
  /-- A command without an option that it needs. -/
  | missingRequiredArgument
  /-- No command, or one that does not exist. -/
  | command
  /-- No error: the help text is asked for. -/
  | displayHelp
  /-- No error: the version is asked for. -/
  | displayVersion
deriving DecidableEq, Repr

/-- What an argument is on its own. -/
inductive Token where
  | option (o : OptionName) (attached : Option (List Char))
  | word (cs : List Char)
  /-- Behind it there are no options any more. -/
  | endOfOptions
  | unknown
deriving DecidableEq, Repr

/-- The tokens of an argument, where a command knows some of the options. -/
def tokens (known : List OptionName) (argument : List Char) : List Token :=
  match argument with
  | ['-', '-'] => [.endOfOptions]
  | '-' :: '-' :: rest =>
    let name := rest.takeWhile (· ≠ '=')
    let attached := match rest.dropWhile (· ≠ '=') with
      | '=' :: value => some value
      | _ => none
    match known.find? (·.spelling = name) with
    | some o => [.option o attached]
    | none => [.unknown]
  | '-' :: c :: rest =>
    (c :: rest).map fun c =>
      match known.find? (·.letter? = some c) with
      | some o => .option o none
      | none => .unknown
  | _ => [.word argument]

/-- What an option with its value sets. -/
inductive Given where
  | tile (key : TileKey)
  | id (id : UInt64)
  | name (fragment : String)
  | layer (layer : String)
  | neighbors
  | noNeighbors
  | archive (path : String)
  | service (base : String)
  | timeout (seconds : UInt64)
  | json
  | all
  | verbose
deriving DecidableEq, Repr

namespace Given

/-- The option that set something. -/
def option : Given → OptionName
  | tile _ => .tile
  | id _ => .id
  | name _ => .name
  | layer _ => .layer
  | neighbors => .neighbors
  | noNeighbors => .noNeighbors
  | archive _ => .archive
  | service _ => .service
  | timeout _ => .timeout
  | json => .json
  | all => .all
  | verbose => .verbose

/-- What an option sets, from its value. -/
def ofValue (o : OptionName) (value : String) : Except UsageError Given :=
  match o with
  | .tile =>
    match TileKey.parse value with
    | .ok key => .ok (tile key)
    | .error _ => .error .valueValidation
  | .id => ((Text.word64? value).map fun n => .ok (id n)).getD (.error .valueValidation)
  | .name => .ok (name value)
  | .layer => .ok (layer value)
  | .archive => if value.isEmpty then .error .invalidValue else .ok (archive value)
  | .service => .ok (service value)
  | .timeout => ((Text.word64? value).map fun n => .ok (timeout n)).getD (.error .valueValidation)
  | .neighbors => .ok neighbors
  | .noNeighbors => .ok noNeighbors
  | .json => .ok json
  | .all => .ok all
  | .verbose => .ok verbose
  | .help => .error .displayHelp
  | .version => .error .displayVersion

end Given

/-- How far a list of tokens is read. -/
structure Reading where
  /-- What was set, in order. -/
  given : List Given := []
  /-- An option that may still take a word, and the word if it has taken one. -/
  pending : Option (OptionName × Option (List Char)) := none
deriving DecidableEq, Repr

namespace Reading

/-- An option was given and not taken back. -/
def has (r : Reading) (o : OptionName) : Bool := r.given.any (·.option = o)

/-- The option that another takes back. -/
def takenBack? : OptionName → Option OptionName
  | .neighbors => some .noNeighbors
  | .noNeighbors => some .neighbors
  | _ => none

/-- Sets what an option sets. Of the options that may come again, `repeated` lists those whose
values add up. -/
def set (repeated : List OptionName) (r : Reading) (o : OptionName) (value : String) :
    Except UsageError Reading := do
  if r.has o ∧ o ∉ repeated then throw .argumentConflict
  let g ← Given.ofValue o value
  return { r with given := r.given.filter (fun h => some h.option ≠ takenBack? o) ++ [g] }

/-- Settles the pending option. -/
def settle (repeated : List OptionName) (r : Reading) : Except UsageError Reading :=
  match r.pending with
  | none => .ok r
  | some (_, none) => .error .invalidValue
  | some (o, some value) => set repeated { r with pending := none } o (String.ofList value)

/-- Reads one token. -/
def step (repeated : List OptionName) (r : Reading) : Token → Except UsageError Reading
  | .unknown => .error .unknownArgument
  | .endOfOptions => .ok r
  | .word cs =>
    match r.pending with
    | some (o, none) => .ok { r with pending := some (o, some cs) }
    | _ => .error .unknownArgument
  | .option o attached =>
    match o.takesValue, attached with
    | false, some _ => .error .tooManyValues
    | false, none => do set repeated (← r.settle repeated) o ""
    | true, some value => do set repeated (← r.settle repeated) o (String.ofList value)
    | true, none => do return { (← r.settle repeated) with pending := some (o, none) }

/-- Reads tokens up to the end of the options, behind which nothing may stand. -/
def run (repeated : List OptionName) (r : Reading) : List Token → Except UsageError Reading
  | [] => r.settle repeated
  | [.endOfOptions] => r.settle repeated
  | .endOfOptions :: _ => .error .unknownArgument
  | t :: rest => do run repeated (← r.step repeated t) rest

end Reading

/-- What the arguments of a command set. -/
def readOptions (known repeated : List OptionName) (arguments : List String) :
    Except UsageError (List Given) :=
  ((({} : Reading).run repeated) (arguments.flatMap fun a => tokens known a.toList)).map (·.given)

end TileScope.CommandLine
