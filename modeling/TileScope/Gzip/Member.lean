import TileScope.Checksum.Crc32
import TileScope.Deflate.Inflate

/-!
# Gzip members

A member is a header, a deflate stream and a trailer of eight bytes.

| header field | present when | form |
| --- | --- | --- |
| magic, method, flags, time, extra flags, system | always | `1f 8b 08`, flags, six bytes |
| extra | flag bit 2 | length in two bytes, that many bytes |
| name | flag bit 3 | up to 65535 bytes, then a zero |
| comment | flag bit 4 | up to 65535 bytes, then a zero |
| header checksum | flag bit 1 | low half of the CRC-32 of the header so far |

The trailer is the CRC-32 of the inflated bytes and their number modulo `2^32`. It is read only
after the deflate stream has ended within the limit, and nothing after it is looked at.
-/

namespace TileScope.Gzip

/-- Why a member cannot be unpacked. -/
inductive Fault where
  /-- The header or the trailer ends early. -/
  | cutShort
  /-- The compression method is not deflate, or a reserved flag is set. -/
  | badHeader
  /-- The name or the comment is too long. -/
  | fieldTooLong
  /-- A checksum or the length does not fit. -/
  | mismatch
  /-- The deflate stream breaks its format. -/
  | corrupt
  /-- The deflate stream ends early. -/
  | incomplete
  /-- The inflated bytes pass the limit. -/
  | overflow
deriving DecidableEq, Repr

/-- The first two bytes of every member. -/
def magic : List UInt8 := [0x1f, 0x8b]

/-- The longest name or comment. -/
def maxField : Nat := 65535

/-- Splits off the first `n` bytes. -/
def splitBytes (n : Nat) (bytes : List UInt8) : Except Fault (List UInt8 × List UInt8) :=
  if n ≤ bytes.length then .ok (bytes.splitAt n) else .error .cutShort

/-- Splits off a field that ends with a zero byte, giving the field with its zero. Of the field at
most `room` bytes may come before the zero. -/
def splitField (room : Nat) : List UInt8 → Except Fault (List UInt8 × List UInt8)
  | [] => .error .cutShort
  | b :: rest =>
    if b = 0 then .ok ([b], rest)
    else
      match room with
      | 0 => .error .fieldTooLong
      | room + 1 =>
        match splitField room rest with
        | .error e => .error e
        | .ok (field, rest) => .ok (b :: field, rest)

/-- A part of the header that is there only when its flag is set. -/
def optionalPart (flags : UInt8) (bit : Nat)
    (split : List UInt8 → Except Fault (List UInt8 × List UInt8)) (bytes : List UInt8) :
    Except Fault (List UInt8 × List UInt8) :=
  if flags.toNat.testBit bit then split bytes else .ok ([], bytes)

/-- Splits off the extra field with its length. -/
def splitExtra (bytes : List UInt8) : Except Fault (List UInt8 × List UInt8) := do
  let (length, bytes) ← splitBytes 2 bytes
  let (extra, bytes) ← splitBytes (littleEndian length) bytes
  return (length ++ extra, bytes)

/-- Reads the header and gives what follows it. -/
def afterHeader (bytes : List UInt8) : Except Fault (List UInt8) := do
  let (fixed, bytes) ← splitBytes 10 bytes
  let flags := fixed[3]?.getD 0
  if fixed.take 2 ≠ magic ∨ fixed[2]? ≠ some 8 ∨ 32 ≤ flags then throw .badHeader
  let (extra, bytes) ← optionalPart flags 2 splitExtra bytes
  let (name, bytes) ← optionalPart flags 3 (splitField maxField) bytes
  let (comment, bytes) ← optionalPart flags 4 (splitField maxField) bytes
  let (check, bytes) ← optionalPart flags 1 (splitBytes 2) bytes
  let crc := (Crc32.ofList (fixed ++ extra ++ name ++ comment)).toNat % UInt16.size
  if flags.toNat.testBit 1 ∧ littleEndian check ≠ crc then throw .mismatch
  return bytes

/-- A deflate fault as a fault of the member. -/
def Fault.ofDeflate : Deflate.Fault → Fault
  | .corrupt => .corrupt
  | .incomplete => .incomplete
  | .overflow => .overflow

/-- Whether the trailer at the start of `bytes` fits the inflated bytes. -/
def checkTrailer (out : ByteArray) (bytes : List UInt8) : Except Fault Unit := do
  let (trailer, _) ← splitBytes 8 bytes
  if littleEndian (trailer.take 4) ≠ (Crc32.ofBytes out).toNat
    ∨ littleEndian (trailer.drop 4) ≠ out.size % UInt32.size then throw .mismatch

/-- Unpacks the first member of `bytes` to at most `limit` bytes. -/
def unpack (limit : Nat) (bytes : List UInt8) : Except Fault ByteArray := do
  let stream ← afterHeader bytes
  let (out, rest) ← (Deflate.inflate limit bytes.length stream).mapError Fault.ofDeflate
  checkTrailer out rest
  return out

end TileScope.Gzip
