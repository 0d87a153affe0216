import TileScope.Archive.Cell
import TileScope.Grid.Archive
import TileScope.Store.Basic
import TileScope.Text.Utf8

/-!
# Archive tables

An archive has two tables: `tiles`, with a tile's zoom, column, row and bytes, and `metadata`, with
names and values. Either may be missing. Rows are kept in the order in which they came in.

| what is read | answer |
| --- | --- |
| a tile | the bytes of the first row with its zoom, column and row |
| the metadata | every name with the value of its last row; none if the table is missing |

A connection remembers which tables there were when it last read. If it remembers the table of
metadata and the table has gone since, it reports that once instead of answering that there are
none.

`Database.change` is how tables change; nothing that is read changes them.
-/

namespace TileScope.Archive

/-- A row of the table of tiles. -/
structure TileRow where
  zoom : Cell
  column : Cell
  row : Cell
  data : Cell
deriving DecidableEq

namespace TileRow

/-- The row as the table keeps it: its first three columns are for numbers. -/
def kept (r : TileRow) : TileRow :=
  { r with zoom := r.zoom.asNumber, column := r.column.asNumber, row := r.row.asNumber }

/-- The row is for the tile at a zoom, column and row. -/
def isAt (zoom column row : Int) (r : TileRow) : Bool :=
  r.zoom.isNumber zoom && r.column.isNumber column && r.row.isNumber row

end TileRow

/-- A row of the table of metadata. -/
structure FactRow where
  name : Cell
  value : Cell
deriving DecidableEq

/-- The row as the table keeps it: both columns are for text. -/
def FactRow.kept (r : FactRow) : FactRow := ⟨r.name.asText, r.value.asText⟩

/-- The two tables. -/
inductive TableName where
  | tiles
  | facts
deriving DecidableEq, Repr

/-- The name of a table. -/
def TableName.name : TableName → String
  | tiles => "tiles"
  | facts => "metadata"

/-- Why a table cannot be read. -/
inductive ReadError where
  /-- A table is missing. -/
  | noTable (table : TableName)
  /-- A table lacks a column. -/
  | noColumn (name : String)
  /-- The file is no archive. -/
  | foreign
  /-- The file is an archive that breaks the rules of its format. -/
  | malformed
  /-- The file is an archive of a later format. -/
  | laterFormat
  /-- The list of tables has an entry that cannot be used. -/
  | badEntry (name : String) (cause : Option String)
  /-- A cell has the wrong kind; the column is counted from 0 in what was asked for. -/
  | cellKind (cell : Cell) (index : Nat) (column : String)
  /-- A text has a flaw in its encoding; the column is counted in the same way. -/
  | badText (index : Nat) (flaw : Option Text.Utf8.Flaw)
deriving DecidableEq

/-- The wording of a read error. -/
def ReadError.message : ReadError → String
  | noTable table => s!"no such table: {table.name}"
  | noColumn name => s!"no such column: {name}"
  | foreign => "file is not a database"
  | malformed => "database disk image is malformed"
  | laterFormat => "unsupported file format"
  | badEntry name cause =>
    s!"malformed database schema ({name})" ++ ((cause.map (" - " ++ ·)).getD "")
  | cellKind cell index column =>
    s!"Invalid column type {cell.kind} at index: {index}, name: {column}"
  | badText index flaw =>
    s!"Conversion error from type Text at index: {index}, "
      ++ ((flaw.map Text.Utf8.Flaw.message).getD "")

/-- The tables of an archive. -/
structure Database where
  tiles : Option (List TileRow) := none
  facts : Option (List FactRow) := none
  /-- What keeps the table of tiles from being read further than its rows. -/
  tilesFault : Option ReadError := none
  /-- What keeps the table of metadata from being read further than its rows. -/
  factsFault : Option ReadError := none
deriving DecidableEq

/-- A change of an archive. -/
inductive Change where
  | insertTile (row : TileRow)
  | insertFact (row : FactRow)
  /-- Takes away the rows of a tile. -/
  | deleteTile (zoom column row : Int)
  /-- Takes away one row, by its place in the table of tiles. -/
  | deleteTileAt (index : Nat)
  /-- Takes away one row, by its place in the table of metadata. -/
  | deleteFactAt (index : Nat)
  /-- Makes an empty table, unless there is one. -/
  | create (table : TableName)
  | drop (table : TableName)

namespace Database

/-- The tables after a change. A row goes nowhere if its table is missing. -/
def change (d : Database) : Change → Database
  | .insertTile row => { d with tiles := d.tiles.map (· ++ [row.kept]) }
  | .insertFact row => { d with facts := d.facts.map (· ++ [row.kept]) }
  | .deleteTile zoom column row =>
    { d with tiles := d.tiles.map (·.filter (!·.isAt zoom column row)) }
  | .deleteTileAt index => { d with tiles := d.tiles.map (·.eraseIdx index) }
  | .deleteFactAt index => { d with facts := d.facts.map (·.eraseIdx index) }
  | .create .tiles => { d with tiles := some (d.tiles.getD []) }
  | .create .facts => { d with facts := some (d.facts.getD []) }
  | .drop .tiles => { d with tiles := none }
  | .drop .facts => { d with facts := none }

/-- The rows of a tile. -/
def rowsAt (d : Database) (zoom column row : Int) : List TileRow :=
  (d.tiles.getD []).filter (·.isAt zoom column row)

/-- The tables with the given rows. -/
def ofRows (tiles : Option (List TileRow)) (facts : Option (List FactRow)) : Database :=
  { tiles := tiles.map (·.map TileRow.kept), facts := facts.map (·.map FactRow.kept) }

end Database

/-- The bytes of a cell. -/
def Cell.bytes? (index : Nat) (column : String) : Cell → Except ReadError ByteArray
  | .blob bytes => .ok bytes
  | cell => .error (.cellKind cell index column)

/-- The text of a cell. -/
def Cell.text? (index : Nat) (column : String) : Cell → Except ReadError String
  | .text s => .ok s
  | .flawedText bytes => .error (.badText index (Text.Utf8.flaw? (octets bytes)))
  | cell => .error (.cellKind cell index column)

namespace Database

/-- The bytes of a tile, if there is a row for it. -/
def tile? (d : Database) (a : ArchiveRow) : Except ReadError (Option ByteArray) :=
  match d.tiles with
  | none => .error (.noTable .tiles)
  | some rows =>
    match rows.find? (·.isAt a.zoom.toNat a.column.toNat a.row.toNat), d.tilesFault with
    | some r, _ => (r.data.bytes? 0 "tile_data").map some
    | none, some e => .error e
    | none, none => .ok none

/-- The name and value of a row. -/
def fact (r : FactRow) : Except ReadError (String × String) := do
  return (← r.name.text? 0 "name", ← r.value.text? 1 "value")

/-- The metadata, for a connection that remembers the table of them or does not. The first row that
is not of text is reported. -/
def metadata (d : Database) (remembered : Bool) : Except ReadError Metadata :=
  match d.facts with
  | some rows => do
    let facts ← rows.mapM fact
    match d.factsFault with
    | some e => throw e
    | none => return .ofList facts
  | none => if remembered then .error (.noTable .facts) else .ok .empty

end Database

end TileScope.Archive
