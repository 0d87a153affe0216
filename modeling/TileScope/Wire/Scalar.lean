import TileScope.Bytes
import TileScope.Wire.Input

/-!
# Scalar values on the wire

| layout | form |
| --- | --- |
| varint | seven bits a byte, low bits first, the top bit set on all but the last byte |
| fixed | four or eight bytes, low byte first |
| delimited | the length as a varint, then that many bytes |

A varint has at most ten bytes and a value below `2^64`; it need not be written as short as
possible.
-/

namespace TileScope.Wire

/-- The next byte. -/
def nextByte? : (i : Input) → Option (Parsed i.length UInt8)
  | ⟨[], _, _⟩ => none
  | ⟨b :: rest, n, h⟩ =>
    some ⟨b, ⟨rest, n - 1, by simp_all⟩, by simp_all⟩

/-- Reads the bytes of a varint, at most `room` of them. -/
def varintBytes : (room : Nat) → Read Nat
  | 0, _ => .error (.of .varint)
  | room + 1, i =>
    match nextByte? i with
    | none => .error (.of .varint)
    | some a =>
      if a.value < 128 then .ok ⟨a.value.toNat, a.rest, a.short⟩
      else
        (varintBytes room a.rest).map fun b =>
          ⟨a.value.toNat - 128 + 128 * b.value, b.rest, Nat.lt_trans b.short a.short⟩

/-- Reads a varint. -/
def varint : Read UInt64 :=
  (varintBytes 10).check fun n => if n < UInt64.size then .ok n.toUInt64 else .error .varint

/-- The first `n` bytes, if there are so many. -/
def takeBytes (n : Nat) (i : Input) : Except Fault (Parsed (i.length + 1) (List UInt8)) :=
  if n ≤ i.length then
    .ok ⟨i.bytes.take n, i.drop n, Nat.lt_succ_of_le (Nat.sub_le i.length n)⟩
  else .error (.of .underflow)

/-- Reads a number of `n + 1` bytes, low byte first. -/
def fixed (n : Nat) : Read Nat := fun i =>
  if h : n + 1 ≤ i.length then
    .ok ⟨littleEndian (i.bytes.take (n + 1)), i.drop (n + 1), by
      show i.length - (n + 1) < i.length
      omega⟩
  else .error (.of .underflow)

/-- Reads a length and that many bytes. -/
def delimited : Read (List UInt8) := fun i =>
  match varint i with
  | .error e => .error e
  | .ok n => (takeBytes n.value.toNat n.rest).map fun b => b.weaken n.short

/-- Reads a text. -/
def text : Read String :=
  delimited.check fun bytes =>
    match String.fromUTF8? (ofOctets bytes) with
    | some s => .ok s
    | none => .error .encoding

end TileScope.Wire
