import TileScope.Archive.File.Page

/-!
# Rows

A row starts with the kinds of its cells, each a number of variable length, and in front of them
the size of this list. The cells follow one another in the same order.

| kind | cell |
| --- | --- |
| 0, 10, 11 | nothing |
| 1, 2, 3, 4, 5, 6 | a whole number in 1, 2, 3, 4, 6 or 8 bytes |
| 7 | a real number |
| 8, 9 | zero, one |
| `12 + 2n` | `n` bytes |
| `13 + 2n` | a text of `n` bytes |
-/

namespace TileScope.Archive.File

/-- The number in `n` bytes from an index on, where the top bit is the sign. -/
def signedAt (b : ByteArray) (i n : Nat) : Int :=
  let value := numberAt b i n
  let span := Nat.pow 256 n
  if 2 * value < span then value else value - span

/-- The characters of units of 16 bits. A unit of the upper half of the surrogates takes the next
one with it. -/
def charsOfUnits : List Nat → List Char
  | [] => []
  | [unit] => [Char.ofNat unit]
  | unit :: next :: rest =>
    if 0xd800 ≤ unit ∧ unit < 0xe000 then
      Char.ofNat (next % 0x400 + (unit % 0x40) * 0x400 + ((unit / 0x40 % 0x10) + 1) * 0x10000)
        :: charsOfUnits rest
    else Char.ofNat unit :: charsOfUnits (next :: rest)

/-- The text that some bytes encode. An odd byte at the end is dropped from pairs. -/
def textOf (encoding : Encoding) (b : ByteArray) : Cell :=
  match encoding with
  | .bytes =>
    match String.fromUTF8? b with
    | some s => .text s
    | none => .flawedText b
  | .pairs highFirst =>
    .text <| String.ofList <| charsOfUnits <| (List.range (b.size / 2)).map fun k =>
      if highFirst then numberAt b (2 * k) 2 else byteAt b (2 * k) + 256 * byteAt b (2 * k + 1)

/-- How many bytes a cell of a kind takes. -/
def cellSize (kind : Nat) : Nat :=
  match kind with
  | 0 | 8 | 9 | 10 | 11 => 0
  | 1 => 1
  | 2 => 2
  | 3 => 3
  | 4 => 4
  | 5 => 6
  | 6 | 7 => 8
  | _ => (kind - 12) / 2

/-- The cell of a kind at an index. -/
def cellAt (encoding : Encoding) (b : ByteArray) (kind i : Nat) : Cell :=
  let size := cellSize kind
  match kind with
  | 0 | 10 | 11 => .null
  | 7 =>
    let d : Double := ⟨(numberAt b i 8).toUInt64⟩
    if d.isNaN then .null else .real d
  | 8 => .integer 0
  | 9 => .integer 1
  | _ =>
    if kind < 7 then .integer (signedAt b i size)
    else if kind % 2 = 0 then .blob (b.extract i (i + size))
    else textOf encoding (b.extract i (i + size))

/-- The kinds of the cells of a row, from an index up to an end, and the index behind them. -/
def kindsFrom (b : ByteArray) (stop i : Nat) : (room : Nat) → List Nat × Nat
  | 0 => ([], i)
  | room + 1 =>
    if stop ≤ i then ([], i)
    else
      let (kind, next) := variableAt b i
      let (kinds, behind) := kindsFrom b stop next room
      (kind :: kinds, behind)

/-- The cells of some kinds, one behind the other from an index on. -/
def cellsFrom (encoding : Encoding) (b : ByteArray) : (i : Nat) → List Nat → List Cell
  | _, [] => []
  | i, kind :: kinds => cellAt encoding b kind i :: cellsFrom encoding b (i + cellSize kind) kinds

/-- The cells of a row. The list of kinds has the size that it says, and the cells fill the rest of
the row; without a list there are no cells. -/
def cells (encoding : Encoding) (b : ByteArray) : Except ReadError (List Cell) :=
  let (stop, i) := variableAt b 0
  if b.size < stop then .error .malformed
  else
    let (kinds, behind) := kindsFrom b stop i stop
    let filled := kinds.foldl (fun i kind => i + cellSize kind) stop
    if kinds ≠ [] ∧ (stop < behind ∨ filled ≠ b.size) then .error .malformed
    else .ok (cellsFrom encoding b stop kinds)

end TileScope.Archive.File
