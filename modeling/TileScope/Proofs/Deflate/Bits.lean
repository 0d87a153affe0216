import Mathlib
import TileScope.Deflate.Inflate

/-!
# The bits of a source

A source stands at a row of bits, each byte from its low end (`BitSource.bits`). Once the limit of
the output is passed, bytes at the end of the input are no longer handed to the reader. So what a
reader does is said of a source together with the bytes that are cut off behind it: it takes a word
off the bits, or the bits end inside the word, and then bytes are cut off (`Reads`).
-/

namespace TileScope.Deflate

/-- The bits of a byte, the low end first. -/
def byteBits (b : UInt8) : List Bool := (List.range 8).map b.toNat.testBit

/-- The bits of bytes. -/
def bitsOf (bytes : List UInt8) : List Bool := bytes.flatMap byteBits

/-- The number that has the bits, the low end first. -/
def ofBits : List Bool → Nat
  | [] => 0
  | b :: bits => b.toNat + 2 * ofBits bits

/-- Bits behind others count for as many places more. -/
theorem ofBits_append (a b : List Bool) :
    ofBits (a ++ b) = ofBits a + 2 ^ a.length * ofBits b := by
  induction a with
  | nil => simp [ofBits]
  | cons x a ih =>
    rw [List.cons_append, ofBits, ofBits, ih, List.length_cons, Nat.pow_succ]
    ring

/-- So many bits make a number below that power of two. -/
theorem ofBits_lt (bits : List Bool) : ofBits bits < 2 ^ bits.length := by
  induction bits with
  | nil => exact Nat.one_pos
  | cons b bits ih =>
    have hb := b.toNat_le
    rw [ofBits, List.length_cons, Nat.pow_succ]
    omega

/-- A byte has eight bits. -/
theorem length_byteBits (b : UInt8) : (byteBits b).length = 8 := rfl

/-- Bytes with the same bits are the same. -/
theorem byteBits_injective {a b : UInt8} (h : byteBits a = byteBits b) : a = b := by
  refine UInt8.toNat_inj.1 (Nat.eq_of_testBit_eq fun i => ?_)
  by_cases hi : i < 8
  · exact List.map_inj_left.1 h i (List.mem_range.2 hi)
  · have hbig (c : UInt8) : c.toNat < 2 ^ i :=
      Nat.lt_of_lt_of_le c.toNat_lt (Nat.pow_le_pow_right (by decide) (Nat.le_of_not_lt hi))
    rw [Nat.testBit_lt_two_pow (hbig a), Nat.testBit_lt_two_pow (hbig b)]

section BitsOf

variable (b : UInt8) (bytes more : List UInt8)

/-- No bytes have no bits. -/
@[simp] theorem bitsOf_nil : bitsOf [] = [] := rfl

/-- The bits of the first byte stand in front. -/
theorem bitsOf_cons : bitsOf (b :: bytes) = byteBits b ++ bitsOf bytes := List.flatMap_cons

/-- The bits of bytes in a row stand in that row. -/
theorem bitsOf_append : bitsOf (bytes ++ more) = bitsOf bytes ++ bitsOf more := List.flatMap_append

/-- Some bytes have eight times as many bits. -/
theorem length_bitsOf : (bitsOf bytes).length = 8 * bytes.length := by
  induction bytes with
  | nil => rfl
  | cons b bytes ih =>
    rw [bitsOf_cons, List.length_append, length_byteBits, ih, List.length_cons]
    omega

end BitsOf

/-- Lists of bytes with the same bits are the same. -/
theorem bitsOf_injective {bytes more : List UInt8} (h : bitsOf bytes = bitsOf more) :
    bytes = more := by
  have hlength := congrArg List.length h
  rw [length_bitsOf, length_bitsOf] at hlength
  induction bytes generalizing more with
  | nil => exact (List.length_eq_zero_iff.1 (by rw [List.length_nil] at hlength; omega)).symm
  | cons b bytes ih =>
    cases more with
    | nil => simp at hlength
    | cons c more =>
      rw [bitsOf_cons, bitsOf_cons] at h
      obtain ⟨hhead, htail⟩ := List.append_inj h rfl
      rw [List.length_cons, List.length_cons] at hlength
      rw [byteBits_injective hhead, ih htail (by omega)]

namespace BitSource

/-- The bits that a source stands at. -/
def bits (s : BitSource) : List Bool := (bitsOf s.bytes).drop s.used

/-- A source of bytes stands at all of their bits. -/
@[simp] theorem bits_ofBytes (bytes : List UInt8) : (ofBytes bytes).bits = bitsOf bytes := rfl

/-- Only the first byte of a source may be partly taken. -/
theorem bits_cons (b : UInt8) (rest : List UInt8) (used : Nat) (h : used < 8) :
    bits ⟨b :: rest, used, h⟩ = (byteBits b).drop used ++ bitsOf rest := by
  rw [bits, bitsOf_cons, List.drop_append_of_le_length (Nat.le_of_lt h)]

/-- At the end of the bits there is no next one. -/
theorem next?_of_bits_nil {s : BitSource} (h : s.bits = []) : s.next? = none := by
  obtain ⟨bytes, used, hused⟩ := s
  cases bytes with
  | nil => rfl
  | cons b rest =>
    have := congrArg List.length h
    rw [bits_cons, List.length_append, List.length_drop, length_byteBits, List.length_nil] at this
    omega

/-- The next bit is the first of the bits, and the source goes on to the others. -/
theorem next?_of_bits_cons {s : BitSource} {b : Bool} {rest : List Bool} (h : s.bits = b :: rest) :
    ∃ t, s.next? = some (b, t) ∧ t.bits = rest := by
  obtain ⟨bytes, used, hused⟩ := s
  cases bytes with
  | nil => simp [bits] at h
  | cons c more =>
    have hdrop : (byteBits c).drop used = c.toNat.testBit used :: (byteBits c).drop (used + 1) := by
      rw [List.drop_eq_getElem_cons (by rw [length_byteBits]; exact hused)]
      simp only [byteBits, List.getElem_map, List.getElem_range]
    rw [bits_cons, hdrop, List.cons_append] at h
    obtain ⟨rfl, rfl⟩ := List.cons.inj h
    refine ⟨_, rfl, ?_⟩
    split
    · next hlast =>
      subst hlast
      rfl
    · exact bits_cons _ _ _ _

/-- Up to the next byte border there are fewer than eight bits, so that the border is known from the
bits and from whole bytes behind them. -/
theorem wholeBytes_append {s : BitSource} {gone bytes : List UInt8} {padding : List Bool}
    (h : s.bits ++ bitsOf gone = padding ++ bitsOf bytes) (hpadding : padding.length < 8) :
    s.wholeBytes ++ gone = bytes := by
  obtain ⟨source, used, hused⟩ := s
  have hlength := congrArg List.length h
  rw [List.length_append, List.length_append, length_bitsOf, length_bitsOf, bits, List.length_drop,
    length_bitsOf] at hlength
  dsimp only at hlength
  -- Of a byte that is partly taken the rest is the padding, and the whole bytes are behind it.
  by_cases hzero : used = 0
  · subst hzero
    have hpad : padding = [] := List.length_eq_zero_iff.1 (by omega)
    rw [hpad] at h
    refine bitsOf_injective ?_
    rw [bitsOf_append]
    exact h
  · rw [wholeBytes, if_neg hzero]
    cases source with
    | nil =>
      have hpad : padding = [] :=
        List.length_eq_zero_iff.1 (by rw [List.length_nil] at hlength; omega)
      rw [hpad] at h
      simp only [bits, bitsOf_nil, List.drop_nil, List.nil_append] at h
      exact bitsOf_injective h
    | cons c source =>
      rw [bits_cons, List.append_assoc] at h
      rw [List.length_cons] at hlength
      obtain ⟨-, hbytes⟩ := List.append_inj h (by rw [List.length_drop, length_byteBits]; omega)
      refine bitsOf_injective ?_
      rw [List.tail_cons, bitsOf_append]
      exact hbytes

/-- A portion ends at a byte border, behind the byte that is being read. -/
theorem exists_bits_portion (s : BitSource) {size : Nat} (hsize : 0 < size) (total : Nat) :
    ∃ gone, (s.portion size total).bits ++ bitsOf gone = s.bits := by
  obtain ⟨bytes, used, hused⟩ := s
  cases bytes with
  | nil => exact ⟨[], by simp [portion, bits]⟩
  | cons b rest =>
    have hborder (begun : Nat) : begun ≤ (begun + size - 1) / size * size := by
      have := Nat.lt_div_mul_add (a := begun + size - 1) hsize
      omega
    let position := total - (b :: rest).length
    let begun := position + if used = 0 then 0 else 1
    let kept := (begun + size - 1) / size * size - position
    have hkept : used ≤ 8 * kept := by
      have := hborder begun
      by_cases hzero : used = 0
      · omega
      · have hbegun : begun = position + 1 := congrArg (position + ·) (if_neg hzero)
        omega
    have hinside : used ≤ (bitsOf ((b :: rest).take kept)).length := by
      rw [length_bitsOf, List.length_take, List.length_cons]
      omega
    refine ⟨(b :: rest).drop kept, ?_⟩
    show (bitsOf ((b :: rest).take kept)).drop used ++ _ = (bitsOf (b :: rest)).drop used
    rw [← List.drop_append_of_le_length hinside, ← bitsOf_append, List.take_append_drop]

end BitSource

/-! ## Reading words -/

/-- A reader takes a word off the bits and comes to `found`, with the source behind the word; or it
comes to `short` inside the word, where bytes are cut off. -/
def Reads {ρ : Type} (read : BitSource → ρ) (word : List Bool) (found : BitSource → ρ) (short : ρ) :
    Prop :=
  ∀ ⦃s : BitSource⦄ ⦃gone : List UInt8⦄ ⦃rest : List Bool⦄,
    s.bits ++ bitsOf gone = word ++ rest →
    (∃ t, read s = found t ∧ t.bits ++ bitsOf gone = rest) ∨ read s = short ∧ gone ≠ []

/-- A bit is taken off a source that begins with it. -/
theorem reads_next (b : Bool) : Reads BitSource.next? [b] (fun t => some (b, t)) none := by
  intro s gone rest h
  cases hbits : s.bits with
  | nil =>
    refine .inr ⟨BitSource.next?_of_bits_nil hbits, ?_⟩
    rintro rfl
    rw [hbits] at h
    exact List.cons_ne_nil _ _ h.symm
  | cons c bits =>
    obtain ⟨t, hnext, ht⟩ := BitSource.next?_of_bits_cons hbits
    rw [hbits, List.cons_append] at h
    obtain ⟨rfl, hrest⟩ := List.cons.inj h
    exact .inl ⟨t, hnext, by rw [ht]; exact hrest⟩

/-- A number is taken off a source that begins with its bits. -/
theorem reads_number {bits : List Bool} {n : Nat} (hn : bits.length = n) :
    Reads (BitSource.number? n) bits (fun t => some (ofBits bits, t)) none := by
  subst hn
  induction bits with
  | nil => exact fun s _ _ h => .inl ⟨s, rfl, h⟩
  | cons b bits ih =>
    intro s gone rest h
    rcases reads_next b h with ⟨t, hnext, ht⟩ | ⟨hnext, hgone⟩
    · rcases ih ht with ⟨u, hnumber, hu⟩ | ⟨hnumber, hgone⟩
      · exact .inl ⟨u, by simp only [List.length_cons, BitSource.number?, hnext, hnumber, ofBits],
          hu⟩
      · exact .inr ⟨by simp only [List.length_cons, BitSource.number?, hnext, hnumber], hgone⟩
    · exact .inr ⟨by simp only [List.length_cons, BitSource.number?, hnext], hgone⟩

end TileScope.Deflate
