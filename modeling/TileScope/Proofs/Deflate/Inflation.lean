import TileScope.Proofs.Deflate.Reading

/-!
# Inflation within a limit

**What a stream inflates to is given if it is within the limit, and is an overflow otherwise**
(`InflatesTo.inflate_eq`), for every stream of the format. There are no sizes in between at which
something else is reported, although the limit is looked at only now and then.

Up to the limit the source is whole. Past it the source may be cut to a portion of the input; a
reader then stops inside a word, and all that can be reported is the overflow. `Comes` is the form
in which this is carried through a block: the output is what the format says, with bytes cut off
behind it only past the limit, or the overflow is reported and the output does pass the limit.
-/

namespace TileScope.Deflate

/-- The source stands at the bits; bytes at their end are cut off only if the output passes the
limit. -/
def StandsAt (limit : Nat) (out : List UInt8) (s : BitSource) (bits : List Bool) : Prop :=
  ∃ gone, s.bits ++ bitsOf gone = bits ∧ (gone ≠ [] → limit < out.length)

/-- The bytes are those given; some at the end are cut off only if the output passes the limit. -/
def StandsAtBytes (limit : Nat) (out source bytes : List UInt8) : Prop :=
  ∃ gone, source ++ gone = bytes ∧ (gone ≠ [] → limit < out.length)

/-- Where the output comes to `result`: it is given with what is left to read, or the overflow is
reported, and it is one. -/
def Comes {σ : Type} (limit : Nat) (result : List UInt8) (leaves : σ → Prop)
    (r : Except Fault (ByteArray × σ)) : Prop :=
  (∃ t, r = .ok (ofOctets result, t) ∧ leaves t) ∨ r = .error .overflow ∧ limit < result.length

/-! ## Sources -/

section Sources

variable {bounds : Bounds} {limit : Nat} {out next : List UInt8} {s : BitSource}
  {word bits : List Bool}

/-- A reader in front of its word comes behind it, unless the word is cut off, which takes an output
past the limit. -/
theorem StandsAt.read {ρ : Type} {read : BitSource → ρ} {found : BitSource → ρ} {short : ρ}
    (h : StandsAt limit out s (word ++ bits)) (hread : Reads read word found short) :
    (∃ t, read s = found t ∧ StandsAt limit out t bits) ∨ read s = short ∧ limit < out.length := by
  obtain ⟨gone, hs, hgone⟩ := h
  rcases hread hs with ⟨t, ht, hbits⟩ | ⟨hshort, hcut⟩
  · exact .inl ⟨t, ht, gone, hbits, hgone⟩
  · exact .inr ⟨hshort, hgone hcut⟩

/-- The source is cut only when the output passes the limit. -/
theorem StandsAt.ahead (h : StandsAt bounds.limit out s bits) (hle : out.length ≤ next.length) :
    StandsAt bounds.limit next (bounds.ahead out.length next.length s) bits := by
  obtain ⟨gone, hs, hgone⟩ := h
  rw [Bounds.ahead]
  split
  · next hpassed =>
    obtain ⟨more, hmore⟩ := s.exists_bits_portion (show 0 < portionSize by decide) bounds.inputSize
    refine ⟨more ++ gone, ?_, fun _ => hpassed.2⟩
    rw [bitsOf_append, ← List.append_assoc, hmore, hs]
  · exact ⟨gone, hs, fun hne => Nat.lt_of_lt_of_le (hgone hne) hle⟩

/-- The source may lose bytes when the output passes the limit, and stands where it stood. -/
theorem StandsAtBytes.ahead {source bytes : List UInt8}
    (h : StandsAtBytes bounds.limit out source bytes) (hle : out.length ≤ next.length) :
    StandsAtBytes bounds.limit next
      (bounds.ahead out.length next.length (.ofBytes source)).bytes bytes := by
  obtain ⟨gone, hs, hgone⟩ := h
  rw [Bounds.ahead]
  split
  · next hpassed =>
    obtain ⟨kept, hkept⟩ : ∃ n, (BitSource.portion portionSize bounds.inputSize
        (.ofBytes source)).bytes = source.take n := ⟨_, rfl⟩
    refine ⟨source.drop kept ++ gone, ?_, fun _ => hpassed.2⟩
    rw [hkept, ← List.append_assoc, List.take_append_drop, hs]
  · exact ⟨gone, hs, fun hne => Nat.lt_of_lt_of_le (hgone hne) hle⟩

/-- A source stands where it stood when the output grows. -/
theorem StandsAtBytes.mono {source bytes : List UInt8} (h : StandsAtBytes limit out source bytes)
    (hle : out.length ≤ next.length) : StandsAtBytes limit next source bytes :=
  h.imp fun _ h => ⟨h.1, fun hne => Nat.lt_of_lt_of_le (h.2 hne) hle⟩

/-- Behind the padding of its byte a source stands at whole bytes. -/
theorem StandsAt.wholeBytes {padding : List Bool} {bytes : List UInt8}
    (h : StandsAt limit out s (padding ++ bitsOf bytes)) (hpadding : padding.length < 8) :
    StandsAtBytes limit out s.wholeBytes bytes := by
  obtain ⟨gone, hs, hgone⟩ := h
  exact ⟨gone, BitSource.wholeBytes_append hs hpadding, hgone⟩

/-- Past the limit a source without bits is reported as the overflow. -/
theorem starved_of_lt (h : bounds.limit < out.length) :
    starved bounds (ofOctets out) = .overflow := by
  rw [starved, size_ofOctets, if_pos h]

end Sources

/-! ## Coded blocks -/

/-- The output does not shrink along steps. -/
theorem Steps.length_le {codes : Codes} {bits : List Bool} {out result : List UInt8}
    (h : Steps codes bits out result) : out.length ≤ result.length := by
  induction h with
  | last => exact Nat.le_refl _
  | literal _ _ ih =>
    rw [List.length_append] at ih
    omega
  | copy _ hcopied _ ih =>
    rw [hcopied.length_eq] at ih
    omega

/-- A coded block, by its first step. -/
theorem codedBlock_eq (bounds : Bounds) (codes : Codes) (s : BitSource) (out : ByteArray) :
    codedBlock bounds codes s out = match readAction codes s with
      | .error .incomplete => .error (starved bounds out)
      | .error e => .error e
      | .ok (.endOfBlock, s) => .ok (out, s)
      | .ok (.literal byte, s) =>
        if bounds.room < out.size + 1 then .error .overflow
        else codedBlock bounds codes (bounds.ahead out.size (out.size + 1) s) (out.push byte)
      | .ok (.copy length distance, s) =>
        if bounds.room < out.size + length then .error .overflow
        else codedBlock bounds codes (bounds.ahead out.size (out.size + length) s)
          (copyBack distance length out) := by
  rw [codedBlock]
  split <;> simp_all

section Blocks

variable {bounds : Bounds} {bits rest : List Bool} {out result : List UInt8} {s : BitSource}

/-- A coded block comes to the output that its steps have: by induction on these. -/
theorem Steps.comes {codes : Codes} (h : Steps codes bits out result)
    (hs : StandsAt bounds.limit out s (bits ++ rest)) :
    Comes bounds.limit result (StandsAt bounds.limit result · rest)
      (codedBlock bounds codes s (ofOctets out)) := by
  have hroom := bounds.limit_lt_room
  -- The source may run out of bits at any step, but then the output has passed the limit.
  induction h generalizing s with
  | last h =>
    rw [codedBlock_eq]
    rcases hs.read h.reads with ⟨t, hread, ht⟩ | ⟨hread, hlimit⟩
    · exact .inl ⟨t, by rw [hread], ht⟩
    · exact .inr ⟨by rw [hread]; exact congrArg _ (starved_of_lt hlimit), hlimit⟩
  | @literal word bits b out result h hsteps ih =>
    have hle := hsteps.length_le
    have hsize : (out ++ [b]).length = out.length + 1 := List.length_append
    rw [List.append_assoc] at hs
    rw [codedBlock_eq]
    rcases hs.read h.reads with ⟨t, hread, ht⟩ | ⟨hread, hlimit⟩
    · simp only [hread, size_ofOctets, push_ofOctets]
      split
      · exact .inr ⟨rfl, by omega⟩
      · rw [← hsize]
        exact ih (ht.ahead (by omega))
    · exact .inr ⟨by rw [hread]; exact congrArg _ (starved_of_lt hlimit), by omega⟩
  | @copy word bits length distance out next result h hcopied hsteps ih =>
    have hle := hsteps.length_le
    have hsize := hcopied.length_eq
    rw [List.append_assoc] at hs
    rw [codedBlock_eq]
    rcases hs.read h.reads with ⟨t, hread, ht⟩ | ⟨hread, hlimit⟩
    · simp only [hread, size_ofOctets, hcopied.copyBack_eq h.distance_pos]
      split
      · exact .inr ⟨rfl, by omega⟩
      · rw [← hsize]
        exact ih (ht.ahead (by omega))
    · exact .inr ⟨by rw [hread]; exact congrArg _ (starved_of_lt hlimit), by omega⟩

/-! ## Stored blocks -/

/-- Stored bytes come to stand behind the output. -/
theorem storedBytes_comes {bytes source behind : List UInt8}
    (hs : StandsAtBytes bounds.limit out source (bytes ++ behind)) :
    Comes bounds.limit (out ++ bytes) (StandsAtBytes bounds.limit (out ++ bytes) · behind)
      (storedBytes bounds bytes.length source (ofOctets out)) := by
  have hroom := bounds.limit_lt_room
  induction bytes generalizing source out with
  | nil =>
    rw [List.append_nil]
    exact .inl ⟨source, rfl, hs⟩
  | cons b bytes ih =>
    have hsize : (out ++ [b]).length = out.length + 1 := List.length_append
    have hresult : (out ++ b :: bytes).length = out.length + (bytes.length + 1) :=
      List.length_append
    obtain ⟨gone, hbytes, hgone⟩ := hs
    cases source with
    | nil =>
      have hlimit := hgone fun h => by simp [h] at hbytes
      exact .inr ⟨congrArg _ (starved_of_lt hlimit), by omega⟩
    | cons c source =>
      obtain ⟨rfl, hrest⟩ := List.cons.inj hbytes
      have htail : StandsAtBytes bounds.limit out source (bytes ++ behind) := ⟨gone, hrest, hgone⟩
      rw [List.append_cons] at hresult ⊢
      rw [List.length_cons, storedBytes, size_ofOctets, push_ofOctets]
      split
      · exact .inr ⟨rfl, by omega⟩
      · split
        · rw [← hsize]
          exact ih (htail.ahead (by omega))
        · exact ih (htail.mono (by omega))

/-- A stored block without its whole length is cut off. -/
theorem storedBlock_short {source : List UInt8} (h : source.length < 4) (out : ByteArray) :
    storedBlock bounds source out = .error (starved bounds out) := by
  match source with
  | [] | [_] | [_, _] | [_, _, _] => rfl
  | _ :: _ :: _ :: _ :: rest => exact absurd h (by simp)

/-- A stored block comes to the output and its bytes. -/
theorem StoredBlock.comes (b : StoredBlock) {source behind : List UInt8}
    (hs : StandsAtBytes bounds.limit out source (b.body ++ behind)) :
    Comes bounds.limit (out ++ b.bytes) (StandsAtBytes bounds.limit (out ++ b.bytes) · behind)
      (storedBlock bounds source (ofOctets out)) := by
  obtain ⟨gone, hbytes, hgone⟩ := hs
  rw [body, List.append_assoc] at hbytes
  by_cases hfour : source.length < 4
  · have hcut : gone ≠ [] := by
      rintro rfl
      have := congrArg List.length hbytes
      simp only [List.length_append, Wire.length_writeFixed, List.length_nil] at this
      omega
    have hlimit := hgone hcut
    refine .inr ⟨?_, by rw [List.length_append]; omega⟩
    rw [storedBlock_short hfour, starved_of_lt hlimit]
  · rw [← List.take_append_drop 4 source, List.append_assoc] at hbytes
    obtain ⟨hlengths, hrest⟩ := List.append_inj hbytes (by
      simp only [List.length_take, List.length_append, Wire.length_writeFixed]
      omega)
    rw [← List.take_append_drop 4 source, hlengths, b.storedBlock_lengths]
    exact storedBytes_comes ⟨gone, hrest, hgone⟩

/-! ## Streams -/

/-- The output does not shrink in a block. -/
theorem Block.length_le {kind : Nat} (h : Block kind bits out result rest) :
    out.length ≤ result.length := by
  cases h with
  | stored b => simp
  | fixed _ _ hsteps => exact hsteps.length_le
  | described _ _ hsteps => exact hsteps.length_le

/-- A block of any kind comes to the output that the format says. -/
theorem Block.comes {kind : Nat} (h : Block kind bits out result rest)
    (hs : StandsAt bounds.limit out s bits) :
    Comes bounds.limit result (StandsAt bounds.limit result · rest)
      (block bounds kind s (ofOctets out)) := by
  cases h with
  | stored b out behind hpadding =>
    rw [block, if_pos rfl]
    rcases b.comes (hs.wholeBytes hpadding) with ⟨behind', hblock, hbehind⟩ | ⟨hblock, hlimit⟩
    · obtain ⟨gone, hgone, hlimit⟩ := hbehind
      refine .inl ⟨.ofBytes behind', by rw [hblock], gone, ?_, hlimit⟩
      rw [BitSource.bits_ofBytes, ← bitsOf_append, hgone]
    · exact .inr ⟨by rw [hblock], hlimit⟩
  | @fixed codes bits out result rest h hsteps =>
    have hcodes : blockCodes 1 s = .ok (codes, s) := by
      unfold blockCodes
      rw [fixedCodes_eq_some_iff.2 h]
      rfl
    rw [block, if_neg (by decide), hcodes]
    exact hsteps.comes hs
  | described d rest hsteps =>
    have hkind : blockCodes 2 = describedCodes := by
      funext s
      unfold blockCodes
      split <;> simp_all
    have hlength := hsteps.length_le
    rw [block, if_neg (by decide), hkind]
    rcases hs.read d.reads with ⟨t, hread, ht⟩ | ⟨hread, hlimit⟩
    · rw [hread]
      exact hsteps.comes ht
    · exact .inr ⟨by rw [hread]; exact congrArg _ (starved_of_lt hlimit), by omega⟩

/-- The output does not shrink along blocks. -/
theorem Blocks.length_le {behind : List UInt8} (h : Blocks bits out result behind) :
    out.length ≤ result.length := by
  induction h with
  | last _ h => exact h.length_le
  | more _ h _ ih => exact Nat.le_trans h.length_le ih

/-- A stream, by its first block. -/
theorem blocks_eq (bounds : Bounds) (s : BitSource) (out : ByteArray) :
    blocks bounds s out = match s.number? 3 with
      | none => .error (starved bounds out)
      | some (header, t) =>
        match block bounds (header / 2) t out with
        | .error e => .error e
        | .ok (out, r) =>
          if header % 2 = 1 then finished bounds out r.wholeBytes else blocks bounds r out := by
  rw [blocks]
  split
  · next h => rw [h]
  · next h =>
    simp only [h]
    split <;> simp_all

/-- A block behind its header, in whatever way the stream goes on behind it. -/
theorem Block.exists_blocks_eq {kind : List Bool} (final : Bool) (hkind : kind.length = 2)
    (h : Block (ofBits kind) bits out result rest)
    (hs : StandsAt bounds.limit out s (final :: (kind ++ bits))) :
    (∃ t, StandsAt bounds.limit result t rest ∧ blocks bounds s (ofOctets out)
      = if final then finished bounds (ofOctets result) t.wholeBytes
        else blocks bounds t (ofOctets result)) ∨
    blocks bounds s (ofOctets out) = .error .overflow ∧ bounds.limit < result.length := by
  have hlength := h.length_le
  have hheader : ofBits (final :: kind) % 2 = final.toNat ∧
      ofBits (final :: kind) / 2 = ofBits kind := by
    have := final.toNat_le
    rw [ofBits]
    omega
  have hthree : (final :: kind).length = 3 := by rw [List.length_cons, hkind]
  rw [blocks_eq]
  rcases hs.read (reads_number hthree) with ⟨t, hnumber, ht⟩ | ⟨hnumber, hlimit⟩
  · simp only [hnumber, hheader.1, hheader.2]
    rcases h.comes ht with ⟨u, hblock, hu⟩ | ⟨hblock, hlimit⟩
    · refine .inl ⟨u, hu, ?_⟩
      rw [hblock]
      cases final <;> rfl
    · exact .inr ⟨by rw [hblock], hlimit⟩
  · exact .inr ⟨by simp only [hnumber, starved_of_lt hlimit], by omega⟩

/-- **Blocks up to the last one** come to what the format says, or to the overflow. -/
theorem Blocks.blocks_eq {behind : List UInt8} (h : Blocks bits out result behind)
    (hs : StandsAt bounds.limit out s bits) :
    blocks bounds s (ofOctets out) = if bounds.limit < result.length then .error .overflow
      else .ok (ofOctets result, behind) := by
  induction h generalizing s with
  | last hkind h hpadding =>
    rcases h.exists_blocks_eq true hkind hs with ⟨t, ht, heq⟩ | ⟨heq, hlimit⟩
    · rw [heq, if_pos rfl, finished, size_ofOctets]
      split
      · rfl
      · next hwithin =>
        -- Within the limit no byte is cut off.
        obtain ⟨gone, hgone, hlimit⟩ := ht.wholeBytes hpadding
        have hnone : gone = [] := by_contra fun hne => hwithin (hlimit hne)
        rw [← hgone, hnone, List.append_nil]
    · rw [heq, if_pos hlimit]
  | more hkind h hblocks ih =>
    rcases h.exists_blocks_eq false hkind hs with ⟨t, ht, heq⟩ | ⟨heq, hlimit⟩
    · rw [heq, if_neg Bool.false_ne_true, ih ht]
    · rw [heq, if_pos (Nat.lt_of_lt_of_le hlimit hblocks.length_le)]

end Blocks

/-- **The limit is exact.** A stream that inflates to `data` gives `data` and what is behind the
stream, if `data` is within the limit, and is an overflow otherwise. -/
theorem InflatesTo.inflate_eq {bytes data behind : List UInt8} (h : InflatesTo bytes data behind)
    (limit inputSize : Nat) :
    inflate limit inputSize bytes
      = if limit < data.length then .error .overflow else .ok (ofOctets data, behind) :=
  Blocks.blocks_eq h ⟨[], List.append_nil _, fun hne => absurd rfl hne⟩

/-- Whatever the stream, no output passes the limit. -/
theorem blocks_size_le {bounds : Bounds} {s : BitSource} {out result : ByteArray}
    {behind : List UInt8} (h : blocks bounds s out = .ok (result, behind)) :
    result.size ≤ bounds.limit := by
  fun_induction blocks bounds s out with
  | case1 => cases h
  | case2 => cases h
  | case3 s out header t hheader result r hblock hlast =>
    rw [finished] at h
    split at h
    · cases h
    · next hwithin =>
      cases h
      exact Nat.le_of_not_lt hwithin
  | case4 s out header t hheader result r hblock hmore ih => exact ih h

end TileScope.Deflate
