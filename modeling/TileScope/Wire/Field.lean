import TileScope.Wire.Scalar

/-!
# Fields

A message is a row of fields. A field is a key, which gives its number and its layout, and a
value. Fields that a message type does not know are skipped, groups with everything in them;
skipping goes only so deep.
-/

namespace TileScope.Wire

/-- The number and the layout of a field. -/
structure Key where
  tag : Nat
  wire : WireType
deriving DecidableEq, Repr

/-- Reads a key. Its size is looked at first, then the layout, then the number. -/
def key : Read Key :=
  varint.check fun n =>
    if UInt32.size ≤ n.toNat then .error (.key n)
    else
      match WireType.ofNat? (n.toNat % 8) with
      | none => .error (.layout (n.toNat % 8))
      | some wire => if n.toNat / 8 = 0 then .error .zeroTag else .ok ⟨n.toNat / 8, wire⟩

mutual

/-- Skips the value of a field. -/
def skipValue (depth : Nat) (k : Key) (i : Input) : Except Fault (Parsed i.length Unit) :=
  match depth with
  | 0 => .error (.of .depth)
  | depth + 1 =>
    match k.wire with
    | .varint => varint.map (fun _ => ()) i
    | .fixed64 => (fixed 7).map (fun _ => ()) i
    | .fixed32 => (fixed 3).map (fun _ => ()) i
    | .delimited => delimited.map (fun _ => ()) i
    | .startGroup => skipGroup depth k.tag i.length i i.length_le_self
    | .endGroup => .error (.of .strayEnd)
termination_by (i.length, 1)

/-- Skips fields up to the end of the group with a number. -/
def skipGroup (depth tag bound : Nat) (i : Input) (h : i.length ≤ bound) :
    Except Fault (Parsed bound Unit) :=
  match key i with
  | .error e => .error e
  | .ok k =>
    if k.value.wire = .endGroup then
      if k.value.tag = tag then .ok ⟨(), k.rest, Nat.lt_of_lt_of_le k.short h⟩
      else .error (.of .strayEnd)
    else
      match skipValue depth k.value k.rest with
      | .error e => .error e
      | .ok v =>
        skipGroup depth tag bound v.rest
          (Nat.le_of_lt (Nat.lt_of_lt_of_le (Nat.lt_trans v.short k.short) h))
termination_by (i.length, 0)
decreasing_by
  · exact Prod.Lex.left _ _ k.short
  · exact Prod.Lex.left _ _ (Nat.lt_trans v.short k.short)

end

/-- Reads a value after a check of its layout. -/
def typed {α : Type} (expected found : WireType) (p : Read α) : Read α :=
  if found = expected then p else .fail (.mismatch found expected)

/-- Reads a length and then steps until that many bytes are used. The length may not be more than
what is left, and the last step has to end exactly at the length. -/
def block {σ : Type} (step : σ → Read σ) (s : σ) : Read σ := fun i =>
  match varint i with
  | .error e => .error e
  | .ok n =>
    if n.value.toNat ≤ n.rest.length then
      Read.loop step (n.rest.length - n.value.toNat) i.length s n.rest n.length_lt
    else .error (.of .underflow)

/-- One step through a message: a key and what the message does with it. -/
def field {σ : Type} (merge : Key → σ → Read σ) (s : σ) : Read σ :=
  key.andThen fun k => merge k s

/-- Reads a message that is a field's value. -/
def message {σ : Type} (merge : Key → σ → Read σ) (start : σ) (found : WireType) : Read σ :=
  typed .delimited found (block (field merge) start)

/-- Reads numbers onto an array: a block of them, or a single one. -/
def packed (found : WireType) (values : Array UInt32) : Read (Array UInt32) :=
  let one (values : Array UInt32) : Read (Array UInt32) :=
    varint.map fun n => values.push n.toUInt32
  if found = .delimited then block one values else typed .varint found (one values)

end TileScope.Wire
