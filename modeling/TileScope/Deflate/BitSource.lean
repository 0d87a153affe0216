/-!
# Bits out of bytes

A compressed stream is read bit by bit, each byte from its low end. A `BitSource` is the bytes
still to read and the number of bits already taken from the first of them. Its `size` is the
number of bits left; every read lowers it, which is why the loops over a source end.
-/

namespace TileScope.Deflate

/-- The bits still to read: a list of bytes, `used` bits of the first one already taken. -/
structure BitSource where
  bytes : List UInt8
  used : Nat
  used_lt : used < 8

namespace BitSource

/-- All bits of the bytes. -/
def ofBytes (bytes : List UInt8) : BitSource := ⟨bytes, 0, by decide⟩

/-- The number of bits left. -/
def size (s : BitSource) : Nat := 8 * s.bytes.length - s.used

/-- Eight bits a byte are there at the start. -/
theorem ofBytes_size (bytes : List UInt8) : (ofBytes bytes).size = 8 * bytes.length := rfl

/-- The next bit and what follows it. -/
def next? : BitSource → Option (Bool × BitSource)
  | ⟨[], _, _⟩ => none
  | ⟨b :: rest, used, h⟩ =>
    some (b.toNat.testBit used,
      if last : used = 7 then ⟨rest, 0, by decide⟩ else ⟨b :: rest, used + 1, by omega⟩)

/-- The number whose bits come next, low end first, `n` of them, and what follows. -/
def number? : Nat → BitSource → Option (Nat × BitSource)
  | 0, s => some (0, s)
  | n + 1, s =>
    match s.next? with
    | none => none
    | some (bit, s) =>
      match number? n s with
      | none => none
      | some (high, s) => some (bit.toNat + 2 * high, s)

/-- The bytes from the next byte border on; bits before it are dropped. -/
def wholeBytes (s : BitSource) : List UInt8 := if s.used = 0 then s.bytes else s.bytes.tail

/-- The bits up to the next border of portions of a size, of a source at the end of `total` bytes
that are counted from a border on. A byte of which bits are taken belongs to its portion. -/
def portion (size total : Nat) (s : BitSource) : BitSource :=
  let position := total - s.bytes.length
  let begun := position + if s.used = 0 then 0 else 1
  let border := (begun + size - 1) / size * size
  ⟨s.bytes.take (border - position), s.used, s.used_lt⟩

/-- A portion has no more bits than the whole. -/
theorem portion_size (size total : Nat) (s : BitSource) : (s.portion size total).size ≤ s.size := by
  simp only [portion, BitSource.size, List.length_take]
  omega

/-- A bit taken is one less. -/
theorem next?_size {s r : BitSource} {bit : Bool} (h : s.next? = some (bit, r)) :
    r.size < s.size := by
  obtain ⟨bytes, used, hu⟩ := s
  cases bytes with
  | nil => simp [next?] at h
  | cons b rest =>
    simp only [next?, Option.some.injEq, Prod.mk.injEq] at h
    obtain ⟨-, rfl⟩ := h
    split <;> simp [size] <;> omega

/-- Taking a number leaves no more bits than there were. -/
theorem number?_size {n : Nat} {s r : BitSource} {v : Nat} (h : s.number? n = some (v, r)) :
    r.size ≤ s.size := by
  induction n generalizing s v with
  | zero =>
    simp only [number?, Option.some.injEq, Prod.mk.injEq] at h
    exact h.2 ▸ Nat.le_refl _
  | succ n ih =>
    rw [number?] at h
    split at h
    · simp at h
    · next bit t ht =>
      split at h
      · simp at h
      · next high u hu =>
        simp only [Option.some.injEq, Prod.mk.injEq] at h
        obtain ⟨-, rfl⟩ := h
        exact Nat.le_trans (ih hu) (Nat.le_of_lt (next?_size ht))

/-- Taking a number of at least one bit leaves fewer. -/
theorem number?_succ_size {n : Nat} {s r : BitSource} {v : Nat}
    (h : s.number? (n + 1) = some (v, r)) : r.size < s.size := by
  rw [number?] at h
  split at h
  · simp at h
  · next bit t ht =>
    split at h
    · simp at h
    · next high u hu =>
      simp only [Option.some.injEq, Prod.mk.injEq] at h
      obtain ⟨-, rfl⟩ := h
      exact Nat.lt_of_le_of_lt (number?_size hu) (next?_size ht)

/-- The whole bytes left are within the bits left. -/
theorem wholeBytes_length (s : BitSource) : 8 * s.wholeBytes.length ≤ s.size := by
  obtain ⟨bytes, used, hu⟩ := s
  unfold wholeBytes size
  cases bytes <;> split <;> simp_all
  omega

end BitSource

end TileScope.Deflate
