import TileScope.Archive.File.Row
import TileScope.Archive.File.Schema
import TileScope.Archive.Session

/-!
# The tables in an archive file

The table that starts on the first page of an archive file lists all tables: what each is called,
on which page it starts, and how it was declared. The list is read as a whole before anything else,
so a fault in it keeps every table from being read. A table of tiles or metadata is read by the
names of its columns.
-/

namespace TileScope.Archive

namespace File

/-- A table of a file. -/
structure Listed where
  name : String
  page : Nat
  columns : List String

/-- The text that a cell is read as. -/
def textOfCell : Cell → Option String
  | .text s => some s
  | .flawedText bytes => some (Text.Utf8.lossy (octets bytes))
  | .integer n => some (toString n)
  | _ => none

/-- The entry of a table in the list of tables: its kind, its name, the name of its table, its
first page and its declaration. An entry of another kind is none. -/
def listed? (count : Nat) (row : List Cell) : Except ReadError (Option Listed) :=
  match ((row ++ List.replicate 5 Cell.null).take 5).map textOfCell with
  | [kind, name, _, page, declaration] =>
    let bad := fun cause => .error (.badEntry (name.getD "?") cause)
    match page, declaration with
    | none, _ => bad none
    | some page, some declaration =>
      if (declaration.toList.take 2).map Char.toLower = ['c', 'r'] then
        match page.toNat?.filter (· ≤ count) with
        | none => bad (some "invalid rootpage")
        | some page =>
          .ok <| if kind = some "table" then
            some ⟨String.ofList ((name.getD "").toList.map Char.toLower), page,
              columnNames declaration⟩
          else none
      else if name = none ∨ declaration ≠ "" then bad none
      else .ok none
    | some _, none => if name = none then bad none else .ok none
  | _ => .ok none

/-- The list of tables of a file. -/
def listOf (p : Pages) : Except ReadError (List Listed) :=
  let run := ((p.rows 1).mapAnswers (cells p.encoding)).mapAnswers (listed? p.count)
  match run.fault with
  | some e => .error e
  | none => .ok (run.found.filterMap id)

/-- The rows of a table, each seen through the names of its columns. A table that lacks one of the
columns that are needed has no rows to read. -/
def Listed.rows (p : Pages) (needed : List String) (t : Listed) : Run (String → Cell) :=
  match needed.find? (· ∉ t.columns) with
  | some column => ⟨[], some (.noColumn column)⟩
  | none =>
    (p.rows t.page).mapAnswers fun row =>
      (cells p.encoding row).map fun cells column =>
        (((t.columns.zip cells).find? (·.1 = column)).map (·.2)).getD .null

/-- The tables of a file. -/
def database (p : Pages) : Except ReadError Database :=
  (listOf p).map fun tables =>
    let named := fun (name : TableName) needed =>
      (tables.find? (·.name = name.name)).map (·.rows p needed)
    let tiles := named .tiles ["tile_data", "zoom_level", "tile_column", "tile_row"]
    let facts := named .facts ["name", "value"]
    { tiles := tiles.map fun run => run.found.map fun cell =>
        ⟨cell "zoom_level", cell "tile_column", cell "tile_row", cell "tile_data"⟩
      facts := facts.map fun run => run.found.map fun cell => ⟨cell "name", cell "value"⟩
      tilesFault := tiles.bind (·.fault)
      factsFault := facts.bind (·.fault) }

end File

/-- What a file of some bytes holds. A file of at most one byte is an archive without tables. -/
def Contents.ofBytes (bytes : ByteArray) : Contents :=
  if bytes.size ≤ 1 then .database {}
  else
    match (File.Pages.ofBytes bytes).bind File.database with
    | .ok d => .database d
    | .error e => .unreadable e

end TileScope.Archive
