import TileScope.Bytes
import TileScope.Gzip.Member

/-!
# The compression envelope

Tiles are stored as they are or as one gzip member. The two are told apart by the first two bytes.
Exactly one envelope is removed, and what is inside may not be larger than 64 MiB.
-/

namespace TileScope

/-- The largest inflated payload. -/
def maxInflated : Nat := 64 * 1024 * 1024

/-- Why an envelope cannot be removed: a fault of the gzip member, of which passing the limit is
one. -/
abbrev EnvelopeError := Gzip.Fault

/-- The wording of an envelope error. -/
def EnvelopeError.message : EnvelopeError → String
  | .overflow => s!"inflated payload exceeds {maxInflated} bytes"
  | .cutShort => corrupt "unexpected end of file"
  | .badHeader => corrupt "invalid gzip header"
  | .fieldTooLong => corrupt "gzip header field too long"
  | .mismatch => corrupt "corrupt gzip stream does not have a matching checksum"
  | .corrupt => corrupt "corrupt deflate stream"
  | .incomplete => corrupt "incomplete deflate stream"
where
  corrupt (cause : String) : String := s!"corrupt gzip envelope: {cause}"

/-- A payload out of its envelope. -/
inductive Payload where
  /-- There was no envelope; the bytes are those stored. -/
  | plain (bytes : ByteArray)
  /-- The bytes were inflated. -/
  | inflated (bytes : ByteArray)

/-- The bytes of the payload. -/
def Payload.bytes : Payload → ByteArray
  | .plain bytes => bytes
  | .inflated bytes => bytes

/-- Whether the bytes begin like a gzip member. -/
def isGzip (bytes : ByteArray) : Bool := bytes[0]? == some 0x1f && bytes[1]? == some 0x8b

/-- Removes the envelope, if there is one. -/
def unwrapEnvelope (bytes : ByteArray) : Except EnvelopeError Payload :=
  if isGzip bytes then (Gzip.unpack maxInflated (octets bytes)).map .inflated
  else .ok (.plain bytes)

end TileScope
