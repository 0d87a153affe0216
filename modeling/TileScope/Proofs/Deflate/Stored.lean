import TileScope.Deflate.Inflate
import TileScope.Proofs.Wire.Writing

/-!
# Stored blocks

A deflate stream can hold its bytes as they are, cut into stored blocks anywhere:

| part of a block | bytes |
| --- | --- |
| header | 1: the mark of the last block, two bits of kind 0, five bits that are not read |
| length and its complement | 2 and 2 |
| bytes | up to 65535 |

This is the one way of writing that needs no code and no search for copies.
-/

namespace TileScope.Deflate

/-- A stored block. -/
structure StoredBlock where
  bytes : List UInt8
  /-- The bits of the header that are not read. -/
  padding : Fin 32
  length_le : bytes.length ≤ 65535

/-- Stored blocks, of which there is always a last one. -/
structure StoredStream where
  front : List StoredBlock
  last : StoredBlock

namespace StoredBlock

/-- The header of a block. -/
def header (final : Bool) (padding : Fin 32) : UInt8 := (final.toNat + 8 * padding).toUInt8

/-- A block without its header. -/
def body (b : StoredBlock) : List UInt8 :=
  Wire.writeFixed 2 b.bytes.length ++ Wire.writeFixed 2 (65535 - b.bytes.length) ++ b.bytes

/-- The written form of a block. -/
def written (final : Bool) (b : StoredBlock) : List UInt8 := header final b.padding :: b.body

end StoredBlock

namespace StoredStream

/-- The bytes in the blocks. -/
def bytes (s : StoredStream) : List UInt8 := s.front.flatMap (·.bytes) ++ s.last.bytes

/-- The written form of a stream. -/
def written (s : StoredStream) : List UInt8 :=
  s.front.flatMap (·.written false) ++ s.last.written true

variable (b : StoredBlock) (front : List StoredBlock) (last : StoredBlock)

/-- The bytes of the first block stand in front. -/
theorem bytes_cons : bytes ⟨b :: front, last⟩ = b.bytes ++ bytes ⟨front, last⟩ := by
  rw [bytes, bytes, List.flatMap_cons, List.append_assoc]

/-- The first block is written in front of the others, and not as the last one. -/
theorem written_cons :
    written ⟨b :: front, last⟩ = b.written false ++ written ⟨front, last⟩ := by
  rw [written, written, List.flatMap_cons, List.append_assoc]

end StoredStream

/-- There is room for more than the limit. -/
theorem Bounds.limit_lt_room (b : Bounds) : b.limit < b.room := by
  rw [room, windowSize]
  omega

/-- The length of a block and its complement say how many bytes are moved. -/
theorem StoredBlock.storedBlock_lengths {bounds : Bounds} {out : ByteArray} (b : StoredBlock)
    (rest : List UInt8) :
    storedBlock bounds (Wire.writeFixed 2 b.bytes.length
      ++ Wire.writeFixed 2 (65535 - b.bytes.length) ++ rest) out
      = storedBytes bounds b.bytes.length rest out := by
  have hpair (n : Nat) (hn : n ≤ 65535) :
      n.toUInt8.toNat + 256 * (n / 256).toUInt8.toNat = n := by
    have hlow (k : Nat) : k.toUInt8.toNat = k % 256 := rfl
    rw [hlow, hlow]
    omega
  simp only [Wire.writeFixed, List.cons_append, List.nil_append, storedBlock,
    hpair _ b.length_le, hpair _ (Nat.sub_le 65535 _), if_true]

end TileScope.Deflate
