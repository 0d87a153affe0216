import TileScope.Archive.Database
import TileScope.Archive.Pool

/-!
# Reading archives

An archive is a file. A session opens it once and reads it through the connections of a pool; what
it reads is the file as it stands at that time.
-/

namespace TileScope.Archive

/-- What a file holds. -/
inductive Contents where
  | database (d : Database)
  /-- Something that cannot be read as an archive. -/
  | unreadable (e : ReadError)
deriving DecidableEq

/-- The tables of a file. -/
def Contents.database? : Contents → Except ReadError Database
  | database d => .ok d
  | unreadable e => .error e

/-- What stands at a path. -/
inductive Found where
  | missing
  | directory
  | file (contents : Contents)

/-- The error of a path that cannot be opened. -/
def cannotOpen (path cause : String) : StoreError := .io s!"Failed to open archive {path}: {cause}"

/-- Opens what stands at a path. Whether it is an archive shows only when it is read. -/
def Found.opened (path : String) : Found → Except StoreError Contents
  | missing => .error (cannotOpen path s!"unable to open database file: {path}")
  | directory => .error (cannotOpen path "disk I/O error")
  | file contents => .ok contents

/-- A session on an archive that was opened. -/
structure Session where
  path : String
  pool : Pool := .start
  /-- Whether a connection, when it last read, found the table of metadata. -/
  remembers : OrderedMap Nat Bool := .empty

namespace Session

/-- Asks a question on a connection of the session. The question is given whether the connection
remembers the table of metadata. -/
def ask {α : Type} (s : Session) (contents : Contents)
    (question : Database → Bool → Except ReadError α) : Except StoreError α × Session :=
  let (connection, pool) := s.pool.call (.ok ())
  match connection, contents.database? with
  | .error e, _ => (.error e, { s with pool })
  | .ok _, .error e => (.error (.io e.message), { s with pool })
  | .ok c, .ok d =>
    ((question d ((s.remembers.get? c).getD false)).mapError fun e => .io e.message,
      { s with pool, remembers := s.remembers.insert c d.facts.isSome })

/-- The bytes of a tile. -/
def get (s : Session) (contents : Contents) (key : TileKey) :
    Except StoreError ByteArray × Session :=
  let (found, s) := s.ask contents fun d _ => d.tile? key.archiveRow
  (match found with
    | .error e => .error e
    | .ok none => .error (.notFound key)
    | .ok (some bytes) => .ok bytes, s)

/-- The metadata of the archive. -/
def metadata (s : Session) (contents : Contents) : Except StoreError Metadata × Session :=
  s.ask contents Database.metadata

/-- What the archive is, in words. -/
def description (s : Session) : String := "mbtiles:" ++ s.path

/-- The archive as a store, as long as its file does not change. -/
def store (s : Session) (contents : Contents) : Store :=
  { get := fun key => (s.get contents key).1
    description := s.description
    metadata := (s.metadata contents).1 }

end Session

/-- What an archive of a name turns out to be, where `found` is what stands at its location. -/
def openStore (name : String) (found : Found) : Except StoreError Store :=
  (found.opened name).map fun contents => ({ path := name } : Session).store contents

end TileScope.Archive
