import TileScope.Text.Percent
import TileScope.Text.Utf8

/-!
# Where archives are

An archive is named by the path of its file, or by an address: `file:`, a path, and options behind
a question mark, each a name and a value, set apart by `&`. What stands behind a hash does not
count. A percent sign and two hexadecimal digits stand for a byte; the byte zero ends what it is in.

| option | value |
| --- | --- |
| `mode` | `ro` to read; `memory` for an archive without file; `rw` and `rwc` to write |
| `cache` | `shared` or `private` |
| `vfs` | the name of a file system layer |

Other options do not count. An archive is opened for reading, so a mode for writing is allowed only
behind the mode `memory`, which lifts the restriction. The empty path and `:memory:` name an
archive without file and without tables.
-/

namespace TileScope.Archive

/-- Why a name of an archive cannot be followed. -/
inductive LocationError where
  /-- The character with the code 0 is in the name. -/
  | zero (index : Nat)
  /-- An address of another machine. -/
  | authority (name : String)
  | noMode (option value : String)
  | modeNotAllowed (option value : String)
  | noLayer (name : String)
  /-- The path cannot be one of a file. -/
  | unnameable
deriving DecidableEq, Repr

/-- Where an archive is. -/
inductive Location where
  /-- Nowhere: it has no tables. -/
  | memory
  | file (path : String)
deriving DecidableEq, Repr

/-- A mode of access, by what it asks for. -/
structure Access where
  read : Bool := false
  write : Bool := false
  create : Bool := false
  memory : Bool := false
deriving DecidableEq, Repr

namespace Access

/-- Access for reading. -/
def reading : Access := { read := true }

/-- The access that a mode stands for. -/
def ofMode? (mode : String) : Option Access :=
  match mode with
  | "ro" => some { read := true }
  | "rw" => some { write := true }
  | "rwc" => some { write := true, create := true }
  | "memory" => some { memory := true }
  | _ => none

/-- A mode may be changed to another one that does not ask for more; all is allowed to an archive
in memory. -/
def allows (present wanted : Access) : Bool :=
  wanted.memory || wanted.read || present.memory
    || (present.write && (present.create || !wanted.create))

end Access

/-- The bytes that a part of an address stands for, up to a zero. -/
def decodedPart (bytes : List UInt8) : List UInt8 :=
  (Text.Percent.decode bytes).takeWhile (· ≠ 0)

/-- Splits at the first place of a byte. -/
def splitAtByte (mark : UInt8) (bytes : List UInt8) : List UInt8 × List UInt8 :=
  (bytes.takeWhile (· ≠ mark), (bytes.dropWhile (· ≠ mark)).drop 1)

/-- The pieces between the places of a byte. -/
def bytePieces (mark : UInt8) : List UInt8 → List (List UInt8)
  | [] => [[]]
  | b :: rest =>
    if b = mark then [] :: bytePieces mark rest
    else
      match bytePieces mark rest with
      | [] => [[b]]
      | piece :: more => (b :: piece) :: more

/-- The options in a part of an address. One without name does not count. -/
def addressOptions (bytes : List UInt8) : List (List UInt8 × List UInt8) :=
  (bytePieces 38 bytes).filterMap fun piece =>
    let (name, value) := splitAtByte 61 piece
    let name := decodedPart name
    if name.isEmpty then none else some (name, decodedPart value)

/-- What options ask for: an access and a file system layer. -/
structure Wishes where
  access : Access := .reading
  layer : String := "unix"
deriving DecidableEq, Repr

/-- The wishes after one more option. -/
def Wishes.with (w : Wishes) (option : List UInt8 × List UInt8) : Except LocationError Wishes :=
  let value := Text.Utf8.lossy option.2
  match Text.Utf8.text? option.1 with
  | some "vfs" => .ok { w with layer := value }
  | some "cache" =>
    if value = "shared" ∨ value = "private" then .ok w else .error (.noMode "cache" value)
  | some "mode" =>
    match Access.ofMode? value with
    | none => .error (.noMode "access" value)
    | some wanted =>
      if w.access.allows wanted then .ok { w with access := wanted }
      else .error (.modeNotAllowed "access" value)
  | _ => .ok w

/-- The layers that keep archives in files. -/
def fileLayers : List String := ["unix", "unix-none", "unix-dotfile", "unix-excl"]

/-- The layer that keeps archives in memory. -/
def memoryLayer : String := "memdb"

namespace Location

/-- The location of a path. -/
def ofPath (path : List UInt8) : Except LocationError Location :=
  match Text.Utf8.text? path with
  | some path => .ok (if path = "" ∨ path = ":memory:" then .memory else .file path)
  | none => .error .unnameable

/-- The location of an address, behind its scheme. -/
def ofAddress (bytes : List UInt8) : Except LocationError Location := do
  let bytes ← match bytes with
    | 47 :: 47 :: rest =>
      let authority := rest.takeWhile (· ≠ 47)
      if authority.isEmpty ∨ authority = "localhost".toUTF8.toList then
        pure (rest.dropWhile (· ≠ 47))
      else throw (.authority (Text.Utf8.lossy authority))
    | _ => pure bytes
  let (path, options) := splitAtByte 63 (bytes.takeWhile (· ≠ 35))
  let wishes ← (addressOptions options).foldlM Wishes.with {}
  if wishes.layer ∉ memoryLayer :: fileLayers then throw (.noLayer wishes.layer)
  if wishes.access.memory ∨ wishes.layer = memoryLayer then return .memory
  ofPath (decodedPart path)

/-- The scheme of addresses. -/
def scheme : List UInt8 := "file:".toUTF8.toList

/-- The location of an archive of a name. -/
def ofName (name : String) : Except LocationError Location :=
  let bytes := name.toUTF8.toList
  match bytes.findIdx? (· = 0) with
  | some index => .error (.zero index)
  | none =>
    if scheme.isPrefixOf bytes then ofAddress (bytes.drop scheme.length) else ofPath bytes

end Location

/-- The wording of an error of location. -/
def LocationError.message (name : String) : LocationError → String
  | zero index => s!"nul byte found in provided data at position: {index}"
  | authority host => s!"invalid uri authority: {host}"
  | noMode option value => s!"no such {option} mode: {value}"
  | modeNotAllowed option value => s!"{option} mode not allowed: {value}"
  | noLayer layer => s!"no such vfs: {layer}"
  | unnameable => s!"unable to open database file: {name}"

end TileScope.Archive
