import TileScope.Archive.Numeral
import TileScope.Archive.Real

/-!
# Cells

A cell of an archive is nothing, a whole number, a real number, a text or bytes. The column that a
cell is put into may change it:

| column | change |
| --- | --- |
| number | a text that writes a number becomes that number |
| text | a number becomes its text |
| any | none |

A number that is whole is kept as a whole number by a number column, however it is written: `" 5 "`,
`"+5"`, `"5.0"` and `"50e-1"` are the same cell.
-/

namespace TileScope.Archive

/-- Bytes are equal when their arrays are. -/
local instance decidableEqBytes : DecidableEq ByteArray := ByteArray.instDecidableEq

/-- A cell of a table. -/
inductive Cell where
  | null
  | integer (n : Int)
  | real (d : Double)
  | text (s : String)
  /-- A text that has a flaw in its encoding. -/
  | flawedText (bytes : ByteArray)
  | blob (bytes : ByteArray)
deriving DecidableEq

namespace Cell

/-- The name of the kind of a cell. -/
def kind : Cell → String
  | null => "Null"
  | integer _ => "Integer"
  | real _ => "Real"
  | text _ | flawedText _ => "Text"
  | blob _ => "Blob"

end Cell

/-- The whole numbers that a cell can hold: those of 64 bits. -/
def isCellInteger (n : Int) : Bool :=
  Int64.minValue.toInt ≤ n && n ≤ Int64.maxValue.toInt

/-- The whole number of 64 bits that a real number is, other than the least and the largest. -/
def wholeReal? (d : Double) : Option Int :=
  d.whole?.filter fun n => Int64.minValue.toInt < n && n < Int64.maxValue.toInt

/-- The cell that a number column makes of a numeral. -/
def Numeral.cell (d : Numeral) : Cell :=
  match d.plain?.filter isCellInteger with
  | some n => .integer n
  | none =>
    match wholeReal? d.toDouble with
    | some n => .integer n
    | none => .real d.toDouble

namespace Cell

/-- The cell as a number column keeps it. -/
def asNumber : Cell → Cell
  | text s =>
    match Numeral.read? s.toList with
    | some d => d.cell
    | none => text s
  | real d =>
    match wholeReal? d with
    | some n => integer n
    | none => real d
  | cell => cell

/-- The cell holds a whole number, as such or as a real number. -/
def isNumber (n : Int) : Cell → Bool
  | integer m => m = n
  | real d => d.whole? = some n
  | _ => false

/-- The cell as a text column keeps it. -/
def asText : Cell → Cell
  | integer n => text (toString n)
  | real d => text (realText d)
  | cell => cell

end Cell

end TileScope.Archive
