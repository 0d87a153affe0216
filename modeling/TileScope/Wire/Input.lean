import TileScope.Wire.Fault

/-!
# Reading from a list of bytes

An `Input` is what is left to read, with its length at hand. A reader gives a value and the rest;
the type of the result says that the rest is shorter, so that any loop over a reader ends.
-/

namespace TileScope.Wire

/-- The bytes left to read. -/
structure Input where
  bytes : List UInt8
  length : Nat
  length_eq : length = bytes.length

namespace Input

/-- All bytes of a list. -/
def ofBytes (bytes : List UInt8) : Input := ⟨bytes, bytes.length, rfl⟩

/-- What is left after the first `n` bytes. -/
def drop (i : Input) (n : Nat) : Input :=
  ⟨i.bytes.drop n, i.length - n, by rw [List.length_drop, i.length_eq]⟩

/-- An input is enough for a loop over itself. -/
theorem length_le_self (i : Input) : i.length ≤ i.length := Nat.le_refl _

/-- A loop over an input and its end needs one step more than it has bytes. -/
theorem length_lt_succ (i : Input) : i.length < i.length + 1 := Nat.lt_succ_self _

end Input

/-- A value that was read, and a rest shorter than `bound`. -/
structure Parsed (bound : Nat) (α : Type) where
  value : α
  rest : Input
  short : rest.length < bound

/-- A value that was read left fewer bytes. -/
theorem Parsed.length_lt {i : Input} {α : Type} (p : Parsed i.length α) :
    p.rest.length < i.length := p.short

/-- The same value and rest under a higher bound. -/
def Parsed.weaken {m n : Nat} {α : Type} (p : Parsed m α) (h : m ≤ n) : Parsed n α :=
  ⟨p.value, p.rest, Nat.lt_of_lt_of_le p.short h⟩

/-- A reader: it gives a value and a rest that is shorter than what it was given. -/
abbrev Read (α : Type) := (i : Input) → Except Fault (Parsed i.length α)

namespace Read

variable {α β σ : Type}

/-- Changes the value that is read. -/
def map (f : α → β) (p : Read α) : Read β := fun i =>
  (p i).map fun a => ⟨f a.value, a.rest, a.short⟩

/-- Reads a value and then what depends on it. -/
def andThen (p : Read α) (f : α → Read β) : Read β := fun i =>
  match p i with
  | .error e => .error e
  | .ok a => (f a.value a.rest).map fun b => b.weaken (Nat.le_of_lt a.short)

/-- Reads a value and checks it. -/
def check (p : Read α) (f : α → Except Cause β) : Read β := fun i =>
  match p i with
  | .error e => .error e
  | .ok a =>
    match f a.value with
    | .error cause => .error (.of cause)
    | .ok b => .ok ⟨b, a.rest, a.short⟩

/-- Reports the faults of a reader as lying in a field. -/
def inField (field : FieldName) (p : Read α) : Read α := fun i => (p i).mapError (·.within field)

/-- A reader that fails. -/
def fail (cause : Cause) : Read α := fun _ => .error (.of cause)

/-- Runs a step as long as more than `limit` bytes are left. The last step has to end exactly
there. -/
def loop (step : σ → Read σ) (limit bound : Nat) (s : σ) (i : Input) (h : i.length < bound) :
    Except Fault (Parsed bound σ) :=
  if i.length ≤ limit then
    if i.length = limit then .ok ⟨s, i, h⟩ else .error (.of .overrun)
  else
    match step s i with
    | .error e => .error e
    | .ok p => loop step limit bound p.value p.rest (Nat.lt_trans p.short h)
termination_by i.length
decreasing_by exact p.short

end Read

end TileScope.Wire
