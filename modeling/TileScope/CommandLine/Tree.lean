import TileScope.Archive.File.Contents
import TileScope.CommandLine.Run

/-!
# Runs on a directory tree

A tree of directories and files, with a working directory in it, is all of a machine that a run
can see. A host on a tree reads its settings and archives from it and puts its log file into it;
no tile service can be reached.

Two ways of finding a path are told apart. An archive is found by its path as a text, where two
dots take back the part in front of them, whether that is there or not. Anything else is found step
by step, where every part but the last has to be a directory.
-/

namespace TileScope.CommandLine

/-- What a file of a tree holds. -/
inductive FileContents where
  | bytes (b : ByteArray)
  | database (d : Archive.Database)

namespace FileContents

/-- What a reader of archives takes a file for. -/
def asArchive : FileContents → Archive.Contents
  | database d => .database d
  | bytes b => .ofBytes b

/-- The bytes that a file is known to hold. -/
def asBytes : FileContents → ByteArray
  | bytes b => b
  | database _ => .empty

end FileContents

/-- A directory or a file. -/
inductive Node where
  | directory
  | file (contents : FileContents)

/-- A directory tree. A node is named by the directories above it and its own name, the root by
nothing. -/
structure Tree where
  nodes : List (List String × Node)
  /-- The working directory. -/
  here : List String

/-- Why a node cannot be found or made. -/
inductive NodeError where
  | missing
  | taken
  | notDirectory
  | directory
  /-- A name is longer than 255 bytes. -/
  | nameTooLong
  /-- The character with the code 0 is in the path. -/
  | zeroInPath
deriving DecidableEq, Repr

/-- The wording of a node error. -/
def NodeError.message : NodeError → String
  | missing => "No such file or directory (os error 2)"
  | taken => "File exists (os error 17)"
  | notDirectory => "Not a directory (os error 20)"
  | directory => "Is a directory (os error 21)"
  | nameTooLong => "File name too long (os error 36)"
  | zeroInPath => "file name contained an unexpected NUL byte"

namespace Tree

/-- The node of a name. The root is always there. -/
def node? (t : Tree) (name : List String) : Option Node :=
  if name = [] then some .directory else (t.nodes.find? (·.1 = name)).map (·.2)

/-- The tree with a node in the place of another one of its name. -/
def put (t : Tree) (name : List String) (n : Node) : Tree :=
  { t with nodes := (name, n) :: t.nodes.filter (·.1 ≠ name) }

/-- The name that the parts of a path come to, where two dots take back the part in front. -/
def nameFrom (start : List String) (parts : List PathPart) : List String :=
  parts.foldl (fun name part => match part with
    | .root => []
    | .here => name
    | .up => name.dropLast
    | .name n => name ++ [n]) start

/-- A name that no node can have. -/
def isTooLong (name : String) : Bool := 255 < name.utf8ByteSize

/-- Goes down from a directory by names. -/
def descend (t : Tree) (above : List String) : List String → Except NodeError Node
  | [] => .ok .directory
  | n :: rest =>
    let name := above ++ [n]
    if isTooLong n then .error .nameTooLong
    else
      match t.node? name with
      | none => .error .missing
      | some .directory => descend t name rest
      | some (.file contents) => if rest = [] then .ok (.file contents) else .error .notDirectory

/-- The name that a path comes to as a text. Each name on the way may be missing, but may not be
behind a file. -/
def resolve (t : Tree) (name : List String) : List PathPart → Except NodeError (List String)
  | [] => .ok name
  | part :: rest =>
    let next := nameFrom name [part]
    match part, t.descend [] next with
    | .name _, .error .missing | .name _, .ok _ => resolve t next rest
    | .name _, .error e => .error e
    | _, _ => resolve t next rest

/-- What a reader of archives finds at a path. The root is no place for an archive. -/
def archive (t : Tree) (path : String) : Archive.Found :=
  match t.resolve t.here (Path.parts path) with
  | .error _ | .ok [] => .missing
  | .ok name =>
    match t.descend [] name with
    | .error _ => .missing
    | .ok .directory => .directory
    | .ok (.file contents) => .file contents.asArchive

/-- Goes along the pieces of a path. A file has nothing behind it, not even a slash. -/
def walk (t : Tree) (above : List String) : List (List Char) → Option Node
  | [] => some .directory
  | piece :: rest =>
    match Path.part? piece with
    | none => walk t above rest
    | some (.name n) =>
      let name := above ++ [n]
      match t.node? name with
      | some .directory => walk t name rest
      | some (.file contents) => if rest = [] then some (.file contents) else none
      | none => none
    | some _ => walk t above.dropLast rest

/-- The node at a path. -/
def find? (t : Tree) (path : String) : Option Node :=
  if path = "" then none
  else t.walk (if Path.isAbsolute path.toList then [] else t.here) (Text.pieces '/' path.toList)

/-- Goes along the parts of a path and makes the directories that are missing. Those that were made
in front of what cannot be made stay. -/
def makeDirectories (t : Tree) (above : List String) :
    List PathPart → Except NodeError (List String) × Tree
  | [] => (.ok above, t)
  | .root :: rest => makeDirectories t [] rest
  | .here :: rest => makeDirectories t above rest
  | .up :: rest => makeDirectories t above.dropLast rest
  | .name n :: rest =>
    let name := above ++ [n]
    if isTooLong n then (.error .nameTooLong, t)
    else
      match t.node? name with
      | some .directory => makeDirectories t name rest
      | some (.file _) => (.error (if rest = [] then .taken else .notDirectory), t)
      | none => makeDirectories (t.put name .directory) name rest

/-- Makes an empty file in a directory, in the place of the file that may be there. The name is the
last one of a path; slashes behind it ask for a directory, and a dot for one that is there. -/
def makeFile (t : Tree) (directory : List String) (name : String) (ending : Path.Ending) :
    Except NodeError Tree :=
  if ending = .slashes then .error .directory
  else if isTooLong name then .error .nameTooLong
  else
    match t.node? (directory ++ [name]), ending with
    | some .directory, _ => .error .directory
    | some (.file _), .dot => .error .notDirectory
    | none, .dot => .error .missing
    | _, _ => .ok (t.put (directory ++ [name]) (.file (.bytes .empty)))

/-- The character with the code 0 is in the name of a part. -/
def hasZero : PathPart → Bool
  | .name n => n.toList.contains '\x00'
  | _ => false

/-- A path that the machine does not take, however short its names are. -/
def isPathTooLong (path : String) : Bool := 4096 ≤ path.utf8ByteSize

/-- Makes an empty file at a path, and the directories above it. -/
def startFile (t : Tree) (path : String) : Except NodeError Unit × Tree :=
  let parts := Path.parts path
  match parts.getLast? with
  | some (.name name) =>
    if parts.dropLast.any hasZero then (.error .zeroInPath, t)
    else if isPathTooLong (Text.dropSlashesEnd (Path.directory path)) then (.error .nameTooLong, t)
    else
      match t.makeDirectories t.here parts.dropLast with
      | (.error e, t) => (.error e, t)
      | (.ok directory, t) =>
        if hasZero (.name name) then (.error .zeroInPath, t)
        else if isPathTooLong path then (.error .nameTooLong, t)
        else
          match t.makeFile directory name (Path.ending path) with
          | .error e => (.error e, t)
          | .ok t => (.ok (), t)
  | _ => (.error .directory, t)

/-- A run on the tree. -/
def host (home : String) : Host (StateM Tree) :=
  { home
    settingsFile := do
      match (← get).find? (Settings.file home) with
      | none => return none
      | some .directory => return some (.error NodeError.directory.message)
      | some (.file contents) => return some (.ok contents.asBytes)
    startLog := fun path => do
      let (started, t) := (← get).startFile path
      set t
      return started.mapError NodeError.message
    archive := fun path => return (← get).archive path
    transport := fun _ => none }

end Tree

end TileScope.CommandLine
