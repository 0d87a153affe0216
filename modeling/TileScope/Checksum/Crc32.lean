import TileScope.Bytes

/-!
# CRC-32

The checksum of gzip members: the remainder of the bytes, taken bit by bit from the low end,
modulo the reversed polynomial `edb88320`, begun and ended with all bits flipped.
-/

namespace TileScope.Crc32

/-- One bit step of the remainder. -/
@[inline] def step (c : UInt32) : UInt32 :=
  if c &&& 1 == 1 then (c >>> 1) ^^^ 0xedb88320 else c >>> 1

/-- Takes one byte into the remainder: eight bit steps. -/
def byte (c : UInt32) (b : UInt8) : UInt32 :=
  step (step (step (step (step (step (step (step (c ^^^ b.toUInt32))))))))

/-- The remainder that no byte has been taken into. -/
def start : UInt32 := 0xffffffff

/-- Turns the remainder into the checksum. -/
def finish (c : UInt32) : UInt32 := ~~~c

/-- The checksum of a list of bytes. -/
def ofList (bytes : List UInt8) : UInt32 := finish (bytes.foldl byte start)

/-- Takes the bytes from place `i` on into the remainder. -/
def through (bytes : ByteArray) (i : Nat) (c : UInt32) : UInt32 :=
  if h : i < bytes.size then through bytes (i + 1) (byte c bytes[i]) else c
termination_by bytes.size - i

/-- The checksum of an array of bytes. -/
def ofBytes (bytes : ByteArray) : UInt32 := finish (through bytes 0 start)

/-- The loop over packed bytes is the fold over those from its place on. -/
theorem through_eq (bytes : ByteArray) (i : Nat) (c : UInt32) :
    through bytes i c = (bytes.data.toList.drop i).foldl byte c := by
  fun_induction through bytes i c with
  | case1 i c h ih =>
    have hl : i < bytes.data.toList.length := by rw [Array.length_toList]; exact h
    rw [ih, List.drop_eq_getElem_cons hl]
    rfl
  | case2 i c h =>
    have hl : bytes.data.toList.length ≤ i := by rw [Array.length_toList]; exact Nat.le_of_not_lt h
    rw [List.drop_eq_nil_of_le hl]
    rfl

/-- Packed bytes have the checksum of their list. -/
theorem ofBytes_eq (bytes : ByteArray) : ofBytes bytes = ofList (octets bytes) := by
  rw [ofBytes, through_eq, List.drop_zero, ofList, octets_eq]

/-- The digits from one to nine have the checksum that implementations are checked by. -/
example : ofList [0x31, 0x32, 0x33, 0x34, 0x35, 0x36, 0x37, 0x38, 0x39] = 0xcbf43926 := by
  decide +kernel

end TileScope.Crc32
