import TileScope.CommandLine.Tree

/-!
# The program

Runs a command line on the machine: settings, archives and the log file are those of the file
system. There is no way to tile services.
-/

namespace TileScope

open CommandLine

/-- The wording of a failure of the file system. -/
def failureText : IO.Error → String
  | .noFileOrDirectory _ _ _ => NodeError.missing.message
  | .alreadyExists _ _ _ => NodeError.taken.message
  | .inappropriateType _ 21 _ => NodeError.directory.message
  | .inappropriateType _ _ _ => NodeError.notDirectory.message
  | e => toString e

/-- The bytes of a file, a failure, or nothing if there is no file. -/
def readFile (path : String) : IO (Option (Except String ByteArray)) := do
  match ← (IO.FS.readBinFile path).toBaseIO with
  | .ok bytes => return some (.ok bytes)
  | .error (.noFileOrDirectory _ _ _) => return none
  | .error e => return some (.error (failureText e))

/-- Makes an empty file, and the directories above it. -/
def makeFile (path : String) : IO (Except String Unit) := do
  let made ← (do
    IO.FS.createDirAll (Path.directory path)
    IO.FS.writeFile path "").toBaseIO
  return made.mapError failureText

/-- What stands at a path, for a reader of archives. -/
def findArchive (path : String) : IO Archive.Found := do
  match ← readFile path with
  | some (.ok bytes) => return .file (.ofBytes bytes)
  | some (.error cause) =>
    return if cause = NodeError.directory.message then .directory else .missing
  | none => return .missing

/-- The machine. -/
def machine (home : String) : Host IO :=
  { home
    settingsFile := readFile (Settings.file home)
    startLog := makeFile
    archive := findArchive
    transport := fun _ => none }

end TileScope

def main (arguments : List String) : IO UInt32 := do
  let home := (← IO.getEnv "HOME").getD "."
  let output ← (TileScope.machine home).run arguments
  IO.print output.out
  IO.eprint output.err
  return output.exitCode.toUInt32
