import TileScope.Bytes
import TileScope.Ini.Reader
import TileScope.Path
import TileScope.Settings.Basic
import TileScope.Text.Casing
import TileScope.Text.Ends
import TileScope.Text.Unsigned

/-!
# Loading settings

Settings stand in a document; each has a section and a key. A value counts without the blanks at
its ends, and a blank value leaves its setting open. The settings are looked at in the order of
`Settings.entries`, and the first one that is not valid is reported.
-/

namespace TileScope

/-- What a valid value looks like. -/
inductive ValueRule where
  /-- An address starts with its scheme. -/
  | scheme
  /-- A time limit is a number of seconds. -/
  | seconds
  /-- A time limit is not zero. -/
  | positive
  /-- A switch is on or off. -/
  | switch
deriving DecidableEq, Repr

/-- The wording of a rule. -/
def ValueRule.message : ValueRule → String
  | .scheme => "must start with http:// or https://"
  | .seconds => "must be a whole number of seconds"
  | .positive => "must be greater than zero"
  | .switch => "must be true or false"

/-- Why there are no settings. -/
inductive SettingsError where
  /-- The file cannot be read as text. -/
  | unreadable (cause : String)
  /-- The text is no document. -/
  | document (fault : Ini.Fault)
  /-- A value breaks a rule. -/
  | invalid (name key value : String) (rule : ValueRule)
deriving DecidableEq, Repr

/-- The wording of a settings error. -/
def SettingsError.message : SettingsError → String
  | .unreadable cause => s!"Failed to read config file: {cause}"
  | .document fault => s!"Failed to read config file: {fault.message}"
  | .invalid name key value rule =>
    s!"Invalid configuration: {name}.{key} = '{value}' - {rule.message}"

namespace Settings

/-- Reads the address of a tile service; slashes at its end do not count. -/
def address? (s : String) : Except ValueRule String :=
  if Text.startsWith s "http://" || Text.startsWith s "https://" then .ok (Text.dropSlashesEnd s)
  else .error .scheme

/-- Reads a time limit. -/
def timeLimit? (s : String) : Except ValueRule UInt64 :=
  match Text.word64? s with
  | none => .error .seconds
  | some n => if n = 0 then .error .positive else .ok n

/-- Reads a switch. -/
def switch? (s : String) : Except ValueRule Bool :=
  let s := Text.toLower (Text.trim s)
  if s ∈ ["true", "1", "yes", "on"] then .ok true
  else if s ∈ ["false", "0", "no", "off"] then .ok false
  else .error .switch

/-- The value of a setting, unless it is open. -/
def given? (d : Ini.Document) (name key : String) : Option String :=
  ((d.value? name key).map Text.trim).filter (!·.isEmpty)

/-- Reads a setting, unless it is open. -/
def read {α : Type} (d : Ini.Document) (name key : String) (rule : String → Except ValueRule α) :
    Except SettingsError (Option α) :=
  match given? d name key with
  | none => .ok none
  | some value => ((rule value).map some).mapError (.invalid name key value)

/-- The settings of a document. A tilde in front of a path stands for the home directory. -/
def ofDocument (home : String) (d : Ini.Document) : Except SettingsError Settings := do
  let path := fun s => .ok (Path.expandHome home s)
  let archive ← read d "archive" "path" path
  let service ← read d "http" "base_url" address?
  let timeout ← read d "http" "timeout" timeLimit?
  let layer ← read d "search" "layer" .ok
  let neighbors ← read d "search" "neighbors" switch?
  let logFile ← read d "logging" "file" path
  return {
    archive, service, layer, logFile
    timeout := timeout.getD 30
    neighbors := neighbors.getD false }

/-- The document in a file. Three bytes that mark a text as UTF-8 may stand in front. -/
def document (bytes : ByteArray) : Except SettingsError Ini.Document :=
  let octets := octets bytes
  let octets := match octets with
    | 0xef :: 0xbb :: 0xbf :: rest => rest
    | _ => octets
  match String.fromUTF8? (ofOctets octets) with
  | none => .error (.unreadable "stream did not contain valid UTF-8")
  | some text => (Ini.Document.read text).mapError .document

/-- The settings of a file. -/
def ofBytes (home : String) (bytes : ByteArray) : Except SettingsError Settings :=
  (document bytes).bind (ofDocument home)

/-- Where the settings of a user stand. -/
def file (home : String) : String := Path.join (Path.join home ".tileprobe") "config.ini"

/-- What is found in the place of a settings file: nothing, something that cannot be read, or a
file. -/
abbrev Found := Option (Except String ByteArray)

/-- The settings of a user; those of someone who has no file are all open. -/
def load (home : String) : Found → Except SettingsError Settings
  | none => .ok {}
  | some (.error cause) => .error (.unreadable cause)
  | some (.ok bytes) => ofBytes home bytes

end Settings

end TileScope
