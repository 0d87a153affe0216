import TileScope.Geometry.Commands
import TileScope.Wire.Fault

/-!
# Decoding errors

A payload is malformed, cut short, or has a layer of a version that is not read. The first two are
told apart for a payload that cannot be read as messages; what is found wrong later is malformed.
-/

namespace TileScope

/-- What makes a payload malformed. -/
inductive Flaw where
  /-- It cannot be read as messages. -/
  | wire (fault : Wire.Fault)
  /-- Two layers have one name. -/
  | duplicateLayer (name : String)
  /-- A geometry cannot be drawn. -/
  | geometry (fault : DrawingFault) (layer : String)
  /-- A feature has a key without a value. -/
  | oddTags (layer : String)
  /-- A tag is past the end of the dictionary of keys. -/
  | keyIndex (index : UInt32) (layer : String)
  /-- A tag is past the end of the dictionary of values. -/
  | valueIndex (index : UInt32) (layer : String)
deriving DecidableEq, Repr

/-- The wording of a flaw. -/
def Flaw.message : Flaw → String
  | .wire fault => fault.message
  | .duplicateLayer name => s!"duplicate layer name '{name}'"
  | .geometry fault layer => s!"{fault.message} in layer '{layer}'"
  | .oddTags layer => s!"odd number of feature tags in layer '{layer}'"
  | .keyIndex index layer => s!"key index {index.toNat} out of range in layer '{layer}'"
  | .valueIndex index layer => s!"value index {index.toNat} out of range in layer '{layer}'"

/-- Why a payload does not decode. -/
inductive DecodeError where
  | malformed (flaw : Flaw)
  | unsupportedVersion (layer : String) (version : UInt32)
  | truncated (fault : Wire.Fault)
deriving DecidableEq, Repr

/-- The wording of a decoding error. -/
def DecodeError.message : DecodeError → String
  | .malformed flaw => s!"malformed tile: {flaw.message}"
  | .unsupportedVersion layer version =>
    s!"unsupported version {version.toNat} in layer '{layer}'"
  | .truncated fault => s!"truncated tile payload: {fault.message}"

end TileScope
