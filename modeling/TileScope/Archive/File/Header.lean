import TileScope.Archive.Database
import TileScope.Bytes

/-!
# Headers of archive files

An archive file is a row of pages of one size, counted from 1. The first 100 bytes of the first
page say how large a page is, how many pages there are and how texts are encoded. Numbers stand
with their high byte first.

| bytes | content |
| --- | --- |
| 0 to 15 | `SQLite format 3` and a zero |
| 16, 17 | size of a page; the largest one, 65536, is written as 1 |
| 19 | version that a reader has to know, at most 2 |
| 20 | bytes at the end of each page that are not in use |
| 21 to 23 | 64, 32, 32 |
| 24 to 27 | count of changes |
| 28 to 31 | number of pages |
| 44 to 47 | version of the list of tables, at most 4 |
| 56 to 59 | encoding of texts |
| 92 to 95 | count of changes when the number of pages was written |
-/

namespace TileScope.Archive.File

/-- The byte at an index, or zero behind the end. -/
def byteAt (b : ByteArray) (i : Nat) : Nat := if h : i < b.size then b[i].toNat else 0

/-- The number in `n` bytes from an index on. -/
def numberAt (b : ByteArray) (i n : Nat) : Nat :=
  (List.range n).foldl (fun value k => 256 * value + byteAt b (i + k)) 0

/-- How texts are encoded. -/
inductive Encoding where
  | bytes
  /-- In units of two bytes. -/
  | pairs (highFirst : Bool)
deriving DecidableEq, Repr

/-- A file with what its header says. -/
structure Pages where
  bytes : ByteArray
  size : Nat
  /-- How many bytes of a page are in use. -/
  used : Nat
  /-- How many pages there are. -/
  count : Nat
  encoding : Encoding

namespace Pages

/-- The first bytes of every archive file. -/
def magic : List UInt8 := "SQLite format 3".toUTF8.toList ++ [0]

/-- The size of a page that a header gives. -/
def givenSize (bytes : ByteArray) : Nat := 256 * byteAt bytes 16 + 65536 * byteAt bytes 17

/-- A page has a power of two of bytes, from 512 to 65536. -/
def isPageSize (n : Nat) : Bool := (List.range 8).any fun k => n = 512 <<< k

/-- How many pages a file has. The last one may be short. -/
def actualCount (bytes : ByteArray) (size : Nat) : Nat := (bytes.size + size - 1) / size

/-- How many pages there are by a header that was written together with the last change. -/
def givenCount? (bytes : ByteArray) : Option Nat :=
  let count := numberAt bytes 28 4
  if numberAt bytes 24 4 = numberAt bytes 92 4 ∧ count ≠ 0 then some count else none

/-- The encoding of texts. -/
def givenEncoding (bytes : ByteArray) : Encoding :=
  match byteAt bytes 59 % 4 with
  | 2 => .pairs false
  | 3 => .pairs true
  | _ => .bytes

/-- The pages of a file that is not empty. -/
def ofBytes (bytes : ByteArray) : Except ReadError Pages :=
  let size := givenSize bytes
  let used := size - byteAt bytes 20
  let count := (givenCount? bytes).getD (actualCount bytes size)
  let fractions := [byteAt bytes 21, byteAt bytes 22, byteAt bytes 23]
  if octets (bytes.extract 0 16) ≠ magic ∨ 2 < byteAt bytes 19 ∨ fractions ≠ [64, 32, 32]
      ∨ !isPageSize size then .error .foreign
  else if actualCount bytes size < count then .error .malformed
  else if used < 480 then .error .foreign
  else if 4 < byteAt bytes 47 then .error .laterFormat
  else .ok ⟨bytes, size, used, count, givenEncoding bytes⟩

end Pages

end TileScope.Archive.File
