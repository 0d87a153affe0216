import TileScope.Gzip.Member
import TileScope.Proofs.Deflate.Inflation
import TileScope.Proofs.InOrder

/-!
# Writing gzip members

The header of a member may have every field of the format:

| field | length |
| --- | --- |
| extra | up to 65535 bytes |
| name, comment | up to 65535 bytes, none of them zero |
| header checksum | 2 bytes |

**What comes of a member is decided by what its stream inflates to and by what stands behind the
stream** (`unpack_eq`), whatever stands in the header. A member whose bytes stand in stored blocks
unpacks to them, whatever stands behind the member (`StoredMember.unpack_written`).
-/

namespace TileScope.Gzip

open Wire (writeFixed littleEndian_writeFixed littleEndian_eq_iff)

/-- An extra field. -/
structure ExtraField where
  bytes : List UInt8
  length_le : bytes.length ≤ 65535

/-- A name or a comment. -/
structure TextField where
  bytes : List UInt8
  length_le : bytes.length ≤ maxField
  zero_notMem : 0 ∉ bytes

/-- The header of a member. -/
structure Header where
  isText : Bool := false
  /-- The time, the extra flags and the system. -/
  origin : Vector UInt8 6
  extra : Option ExtraField := none
  name : Option TextField := none
  comment : Option TextField := none
  /-- Whether there is a checksum of the header. -/
  isChecked : Bool := false

/-- The trailer that fits inflated bytes. -/
def trailerOf (data : List UInt8) : List UInt8 :=
  writeFixed 4 (Crc32.ofList data).toNat ++ writeFixed 4 (data.length % UInt32.size)

/-- A member with stored blocks. -/
structure StoredMember where
  header : Header
  stream : Deflate.StoredStream

/-- The byte of the flags, each at its bit. -/
def flagByte (isText isChecked hasExtra hasName hasComment : Bool) : UInt8 :=
  (isText.toNat + 2 * isChecked.toNat + 4 * hasExtra.toNat + 8 * hasName.toNat
    + 16 * hasComment.toNat).toUInt8

namespace ExtraField

/-- An extra field with its length in front. -/
def written (f : ExtraField) : List UInt8 := writeFixed 2 f.bytes.length ++ f.bytes

end ExtraField

namespace TextField

/-- A name or a comment with its end. -/
def written (f : TextField) : List UInt8 := f.bytes ++ [0]

end TextField

namespace Header

/-- The flags of a header. -/
def flags (h : Header) : UInt8 :=
  flagByte h.isText h.isChecked h.extra.isSome h.name.isSome h.comment.isSome

/-- The part of a header that is always there. -/
def fixed (h : Header) : List UInt8 := magic ++ [8, h.flags] ++ h.origin.toList

/-- A header up to its checksum. -/
def unchecked (h : Header) : List UInt8 :=
  h.fixed ++ Wire.ifThere ExtraField.written h.extra ++ Wire.ifThere TextField.written h.name
    ++ Wire.ifThere TextField.written h.comment

/-- The checksum of a header. -/
def check (h : Header) : List UInt8 :=
  if h.isChecked then writeFixed 2 ((Crc32.ofList h.unchecked).toNat % UInt16.size) else []

/-- The written form of a header. -/
def written (h : Header) : List UInt8 := h.unchecked ++ h.check

end Header

namespace StoredMember

/-- The bytes in a member. -/
def payload (m : StoredMember) : List UInt8 := m.stream.bytes

/-- The trailer of a member. -/
def trailer (m : StoredMember) : List UInt8 := trailerOf m.payload

/-- The written form of a member. -/
def written (m : StoredMember) : List UInt8 := m.header.written ++ m.stream.written ++ m.trailer

end StoredMember

/-! ## Parts of a header -/

section Parts

variable {flags : UInt8} {bit : Nat}
  {split : List UInt8 → Except Fault (List UInt8 × List UInt8)}

/-- So many bytes are split off from what is behind them. -/
theorem splitBytes_append {n : Nat} {front : List UInt8} (h : front.length = n)
    (rest : List UInt8) : splitBytes n (front ++ rest) = .ok (front, rest) := by
  subst h
  rw [splitBytes, if_pos (by simp), List.splitAt_eq, List.take_left, List.drop_left]

/-- A field without zeros and its end are split off from what is behind them. -/
theorem splitField_append {field : List UInt8} {room : Nat} (rest : List UInt8)
    (hzero : 0 ∉ field) (h : field.length ≤ room) :
    splitField room (field ++ 0 :: rest) = .ok (field ++ [0], rest) := by
  induction field generalizing room with
  | nil => rw [List.nil_append, splitField.eq_def, List.nil_append]; rfl
  | cons b field ih =>
    rw [List.mem_cons, not_or] at hzero
    obtain ⟨room, rfl⟩ := Nat.exists_eq_add_of_le' (Nat.succ_le_of_lt (Nat.zero_lt_of_lt h))
    rw [List.cons_append, splitField, if_neg (Ne.symm hzero.1),
      ih hzero.2 (Nat.le_of_succ_le_succ h)]
    rfl

/-- A name or a comment is split off from what is behind it. -/
theorem TextField.split_written (f : TextField) (rest : List UInt8) :
    splitField maxField (f.written ++ rest) = .ok (f.written, rest) := by
  rw [written, List.append_assoc]
  exact splitField_append rest f.zero_notMem f.length_le

/-- An extra field is split off from what is behind it. -/
theorem ExtraField.split_written (f : ExtraField) (rest : List UInt8) :
    splitExtra (f.written ++ rest) = .ok (f.written, rest) := by
  have hle := f.length_le
  have hvalue : littleEndian (writeFixed 2 f.bytes.length) = f.bytes.length :=
    littleEndian_writeFixed 2 _ (by omega)
  rw [written, List.append_assoc, splitExtra, splitBytes_append (Wire.length_writeFixed 2 _)]
  simp only [bind, Except.bind]
  rw [hvalue, splitBytes_append rfl]
  rfl

/-- A part that may be missing is split off, if its flag tells whether it is there. -/
theorem optionalPart_ifThere {α : Type} {write : α → List UInt8} {part : Option α}
    (hflag : flags.toNat.testBit bit = part.isSome)
    (hsplit : ∀ a rest, split (write a ++ rest) = .ok (write a, rest)) (rest : List UInt8) :
    optionalPart flags bit split (Wire.ifThere write part ++ rest)
      = .ok (Wire.ifThere write part, rest) := by
  rw [optionalPart, hflag]
  cases part with
  | none => rfl
  | some a => exact hsplit a rest

end Parts

namespace Header

variable (h : Header)

/-- Each flag is at its bit, and the reserved bits are not set. -/
theorem testBit_flags : h.flags < 32 ∧ h.flags.toNat.testBit 1 = h.isChecked ∧
    h.flags.toNat.testBit 2 = h.extra.isSome ∧ h.flags.toNat.testBit 3 = h.name.isSome ∧
    h.flags.toNat.testBit 4 = h.comment.isSome := by
  have hbits : ∀ a b c d e : Bool, flagByte a b c d e < 32 ∧
      (flagByte a b c d e).toNat.testBit 1 = b ∧ (flagByte a b c d e).toNat.testBit 2 = c ∧
      (flagByte a b c d e).toNat.testBit 3 = d ∧ (flagByte a b c d e).toNat.testBit 4 = e := by
    decide
  exact hbits _ _ _ _ _

/-- The part that is always there is split off from what is behind it. -/
theorem splitBytes_fixed (rest : List UInt8) :
    splitBytes 10 (h.fixed ++ rest) = .ok (h.fixed, rest) :=
  splitBytes_append (by simp [fixed, magic]) rest

/-- The checksum of a header is split off if the flags tell that there is one. -/
theorem optionalPart_check (rest : List UInt8) :
    optionalPart h.flags 1 (splitBytes 2) (h.check ++ rest) = .ok (h.check, rest) := by
  rw [optionalPart, h.testBit_flags.2.1, check]
  split
  · exact splitBytes_append (Wire.length_writeFixed 2 _) rest
  · rfl

/-- The checksum that is written is that of the header in front of it. -/
theorem littleEndian_check (hchecked : h.isChecked = true) :
    littleEndian h.check = (Crc32.ofList h.unchecked).toNat % UInt16.size := by
  rw [check, if_pos hchecked]
  exact littleEndian_writeFixed 2 _ (Nat.mod_lt _ (by decide))

/-- **A header is read up to its end**, whatever fields it has. -/
theorem afterHeader_written (rest : List UInt8) :
    afterHeader (h.written ++ rest) = .ok rest := by
  obtain ⟨hreserved, hchecked, hextra, hname, hcomment⟩ := h.testBit_flags
  have hflags : h.fixed[3]?.getD 0 = h.flags := rfl
  have hvalid : ¬(h.fixed.take 2 ≠ magic ∨ h.fixed[2]? ≠ some 8 ∨ 32 ≤ h.flags) := by
    rintro (h' | h' | h')
    · exact h' rfl
    · exact h' rfl
    · exact absurd hreserved (UInt8.not_lt.2 h')
  have hfits : ¬(h.flags.toNat.testBit 1 = true ∧
      littleEndian h.check ≠ (Crc32.ofList h.unchecked).toNat % UInt16.size) := by
    rw [hchecked]
    exact fun ⟨h', hne⟩ => hne (h.littleEndian_check h')
  have hwritten : h.written ++ rest = h.fixed ++ (Wire.ifThere ExtraField.written h.extra ++
      (Wire.ifThere TextField.written h.name ++ (Wire.ifThere TextField.written h.comment ++
        (h.check ++ rest)))) := by
    simp only [written, unchecked, List.append_assoc]
  -- Each part is split off from all that is behind it, in the order in which they are written.
  rw [hwritten, afterHeader, splitBytes_fixed]
  simp only [bind, Except.bind, hflags, if_neg hvalid, pure, Except.pure,
    optionalPart_ifThere hextra ExtraField.split_written,
    optionalPart_ifThere hname TextField.split_written,
    optionalPart_ifThere hcomment TextField.split_written, optionalPart_check]
  exact if_neg hfits

end Header

/-! ## Trailers and members -/

/-- A trailer has eight bytes. -/
theorem length_trailerOf (data : List UInt8) : (trailerOf data).length = 8 := by
  rw [trailerOf, List.length_append, Wire.length_writeFixed, Wire.length_writeFixed]

/-- **A trailer is taken if it is the one that fits**, and refused otherwise, with a fault of its
own if there are not enough bytes for one. -/
theorem checkTrailer_eq (data behind : List UInt8) :
    checkTrailer (ofOctets data) behind = if trailerOf data <+: behind then .ok ()
      else .error (if behind.length < 8 then .cutShort else .mismatch) := by
  have hcrc : (Crc32.ofBytes (ofOctets data)).toNat = (Crc32.ofList data).toNat := by
    rw [Crc32.ofBytes_eq, octets_ofOctets]
  rw [checkTrailer, hcrc, size_ofOctets]
  by_cases hshort : behind.length < 8
  · have hmissing : ¬trailerOf data <+: behind := fun h => by
      have := h.length_le
      rw [length_trailerOf] at this
      omega
    rw [if_neg hmissing, if_pos hshort, splitBytes, if_neg (Nat.not_le.2 hshort)]
    rfl
  · have hlength : (behind.take 8).length = 8 := by
      rw [List.length_take]
      omega
    have hfront : ((behind.take 8).take 4).length = 4 := by
      rw [List.length_take, hlength]
      rfl
    have hback : ((behind.take 8).drop 4).length = 4 := by rw [List.length_drop, hlength]
    have hbound : data.length % UInt32.size < 256 ^ 4 := Nat.mod_lt _ (by decide)
    have hfits : littleEndian ((behind.take 8).take 4) = (Crc32.ofList data).toNat ∧
        littleEndian ((behind.take 8).drop 4) = data.length % UInt32.size ↔
        trailerOf data <+: behind := by
      rw [littleEndian_eq_iff hfront (Crc32.ofList data).toNat_lt,
        littleEndian_eq_iff hback hbound, List.prefix_iff_eq_take,
        length_trailerOf, trailerOf]
      constructor
      · rintro ⟨hcrc, hsize⟩
        rw [← List.take_append_drop 4 (behind.take 8), hcrc, hsize]
      · intro h
        rw [← h]
        exact ⟨List.take_left' (Wire.length_writeFixed 4 _),
          List.drop_left' (Wire.length_writeFixed 4 _)⟩
    have hsplit : splitBytes 8 behind = .ok (behind.take 8, behind.drop 8) := by
      rw [splitBytes, if_pos (Nat.le_of_not_lt hshort), List.splitAt_eq]
    rw [hsplit, if_neg hshort]
    simp only [bind, Except.bind, ne_eq, ← not_and_or, hfits]
    split <;> simp_all [pure, Except.pure, throw, throwThe, MonadExceptOf.throw]

/-- **Unpacking a member**, whatever its header: the bytes if they are within the limit and the
trailer fits. -/
theorem unpack_eq (h : Header) {stream data behind : List UInt8}
    (hstream : Deflate.InflatesTo stream data behind) (limit : Nat) :
    unpack limit (h.written ++ stream) = if limit < data.length then .error .overflow
      else if trailerOf data <+: behind then .ok (ofOctets data)
      else .error (if behind.length < 8 then .cutShort else .mismatch) := by
  rw [unpack, h.afterHeader_written]
  simp only [bind, Except.bind]
  rw [hstream.inflate_eq]
  by_cases hlimit : limit < data.length
  · rw [if_pos hlimit, if_pos hlimit]
    rfl
  · rw [if_neg hlimit, if_neg hlimit]
    dsimp only [Except.mapError]
    rw [checkTrailer_eq]
    by_cases hfits : trailerOf data <+: behind
    · rw [if_pos hfits, if_pos hfits]
      rfl
    · rw [if_neg hfits, if_neg hfits]

/-- Whatever the member, nothing larger than the limit is unpacked. -/
theorem unpack_size_le {limit : Nat} {bytes : List UInt8} {result : ByteArray}
    (h : unpack limit bytes = .ok result) : result.size ≤ limit := by
  rw [unpack] at h
  obtain ⟨stream, -, h⟩ := bind_eq_ok_iff.1 h
  obtain ⟨⟨out, behind⟩, hinflate, h⟩ := bind_eq_ok_iff.1 h
  obtain ⟨_, -, h⟩ := bind_eq_ok_iff.1 h
  obtain rfl := Except.ok.inj h
  cases hfound : Deflate.inflate limit bytes.length stream with
  | error e => rw [hfound] at hinflate; cases hinflate
  | ok found =>
    rw [hfound] at hinflate
    cases hinflate
    exact Deflate.blocks_size_le hfound

namespace StoredMember

variable (m : StoredMember)

/-- **Unpacking undoes packing.** A member within the limit gives its bytes, whatever follows it. -/
theorem unpack_written {limit : Nat} (h : m.payload.length ≤ limit) (rest : List UInt8) :
    unpack limit (m.written ++ rest) = .ok (ofOctets m.payload) := by
  have htrailer : trailerOf m.payload <+: m.trailer ++ rest := List.prefix_append _ _
  have hunpack := unpack_eq m.header (m.stream.inflatesTo (m.trailer ++ rest)) limit
  rw [written, List.append_assoc, List.append_assoc, hunpack]
  exact (if_neg (Nat.not_lt.2 h)).trans (if_pos htrailer)

end StoredMember

end TileScope.Gzip
