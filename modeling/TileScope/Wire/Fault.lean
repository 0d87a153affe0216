/-!
# Faults of the wire format

What can be wrong with a row of fields, and where: a fault carries the fields it lies in, the
innermost first.
-/

namespace TileScope.Wire

/-- The six ways in which a field's value is laid out. -/
inductive WireType where
  | varint
  | fixed64
  | delimited
  | startGroup
  | endGroup
  | fixed32
deriving DecidableEq, Repr

namespace WireType

/-- The layout with a number, if there is one. -/
def ofNat? : Nat → Option WireType
  | 0 => some .varint
  | 1 => some .fixed64
  | 2 => some .delimited
  | 3 => some .startGroup
  | 4 => some .endGroup
  | 5 => some .fixed32
  | _ => none

/-- The number of a layout. -/
def toNat : WireType → Nat
  | .varint => 0
  | .fixed64 => 1
  | .delimited => 2
  | .startGroup => 3
  | .endGroup => 4
  | .fixed32 => 5

/-- The name of a layout in messages. -/
def name : WireType → String
  | .varint => "Varint"
  | .fixed64 => "SixtyFourBit"
  | .delimited => "LengthDelimited"
  | .startGroup => "StartGroup"
  | .endGroup => "EndGroup"
  | .fixed32 => "ThirtyTwoBit"

/-- A wire type is that of its number. -/
theorem ofNat?_toNat (w : WireType) : ofNat? w.toNat = some w := by cases w <;> rfl

end WireType

/-- What is wrong. -/
inductive Cause where
  /-- A varint ends early, has more than ten bytes or does not fit 64 bits. -/
  | varint
  /-- A value is longer than what is left. -/
  | underflow
  /-- The fields of a message do not end where the message does. -/
  | overrun
  /-- A field key does not fit 32 bits. -/
  | key (key : UInt64)
  /-- A field key has no known layout. -/
  | layout (number : Nat)
  /-- A field key has the number zero. -/
  | zeroTag
  /-- A known field has another layout than its type. -/
  | mismatch (found expected : WireType)
  /-- A group ends that is not open. -/
  | strayEnd
  /-- Groups are nested too deep. -/
  | depth
  /-- A text is not UTF-8. -/
  | encoding
deriving DecidableEq, Repr

/-- The wording of a cause. -/
def Cause.message : Cause → String
  | .varint => "invalid varint"
  | .underflow => "buffer underflow"
  | .overrun => "delimited length exceeded"
  | .key n => s!"invalid key value: {n.toNat}"
  | .layout n => s!"invalid wire type value: {n}"
  | .zeroTag => "invalid tag value: 0"
  | .mismatch found expected => s!"invalid wire type: {found.name} (expected {expected.name})"
  | .strayEnd => "unexpected end group tag"
  | .depth => "recursion limit reached"
  | .encoding => "invalid string value: data is not UTF-8 encoded"

/-- A field of a message type, by the names of both. -/
structure FieldName where
  message : String
  field : String
deriving DecidableEq, Repr

/-- A cause and the fields it lies in, innermost first. -/
structure Fault where
  cause : Cause
  path : List FieldName
deriving DecidableEq, Repr

namespace Fault

/-- A fault outside every field. -/
def of (cause : Cause) : Fault := ⟨cause, []⟩

/-- The fault, seen from outside one more field. -/
def within (field : FieldName) (fault : Fault) : Fault :=
  { fault with path := fault.path ++ [field] }

/-- The wording of a fault. -/
def message (fault : Fault) : String :=
  "failed to decode Protobuf message: "
    ++ String.join (fault.path.map fun f => s!"{f.message}.{f.field}: ") ++ fault.cause.message

end Fault

end TileScope.Wire
