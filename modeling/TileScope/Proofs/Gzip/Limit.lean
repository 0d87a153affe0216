import TileScope.Envelope
import TileScope.Proofs.Gzip.Writing

/-!
# The limit of an envelope

What comes of the bytes is decided by what they begin with, by how much a member holds and by what
stands behind its stream (`unwrapEnvelope_exact`):

| bytes | outcome |
| --- | --- |
| not like a member | the bytes as they are, whatever their number |
| member of more than 64 MiB | too large, whatever stands behind the stream |
| member within 64 MiB, its trailer behind the stream | what it holds |
| member within 64 MiB, anything else behind the stream | corrupt |

The limit is looked at only where output is handed on, and the trailer only behind the end of the
stream. So it is not the order of the two checks in the text that decides: a member of one byte too
many is too large also where its trailer is missing.
-/

namespace TileScope

open Deflate (InflatesTo StoredBlock StoredStream)

/-- The envelope is damaged, as opposed to too large. -/
def EnvelopeError.IsCorrupt (e : EnvelopeError) : Prop :=
  ∃ cause, e.message = EnvelopeError.message.corrupt cause

/-- Bytes count as packed if they begin with the magic ones. -/
theorem isGzip_iff (bytes : ByteArray) : isGzip bytes = true ↔ Gzip.magic <+: octets bytes := by
  rw [isGzip, Bool.and_eq_true, beq_iff_eq, beq_iff_eq, getElem?_octets, getElem?_octets]
  rcases octets bytes with _ | ⟨a, _ | ⟨b, rest⟩⟩
  · exact iff_of_false nofun nofun
  · exact iff_of_false nofun fun h => absurd h.length_le (Nat.not_succ_le_self 1)
  · simp only [Gzip.magic, List.getElem?_cons_zero, List.getElem?_cons_succ, Option.some.injEq,
      List.cons_prefix_cons, List.nil_prefix, and_true, eq_comm]

/-- Every member begins with the bytes that members begin with. -/
theorem Gzip.Header.magic_prefix_written (h : Header) (rest : List UInt8) :
    magic <+: h.written ++ rest := by
  rw [written, unchecked, fixed]
  simp only [List.append_assoc]
  exact List.prefix_append _ _

/-- The envelope of a member is removed as the member is unpacked. -/
theorem unwrapEnvelope_written (h : Gzip.Header) (rest : List UInt8) :
    unwrapEnvelope (ofOctets (h.written ++ rest))
      = (Gzip.unpack maxInflated (h.written ++ rest)).map .inflated := by
  have hgzip : isGzip (ofOctets (h.written ++ rest)) = true := by
    rw [isGzip_iff, octets_ofOctets]
    exact h.magic_prefix_written rest
  rw [unwrapEnvelope, if_pos hgzip, octets_ofOctets]

/-- **The limit is exact.** For a member with any header, whose stream inflates to `data`: it is too
large if and only if `data` passes 64 MiB, whatever stands behind the stream; it gives `data` if and
only if `data` is within 64 MiB and the trailer that fits `data` stands behind the stream; otherwise
it is corrupt. So nothing larger is ever given, and bytes that are not like a member are given as
they are. -/
theorem unwrapEnvelope_exact :
    (∀ (h : Gzip.Header) {stream data behind : List UInt8}, InflatesTo stream data behind →
      let found := unwrapEnvelope (ofOctets (h.written ++ stream))
      (found = .error .overflow ↔ maxInflated < data.length) ∧
      (∀ payload, found = .ok payload ↔ data.length ≤ maxInflated ∧
        Gzip.trailerOf data <+: behind ∧ payload = .inflated (ofOctets data)) ∧
      (data.length ≤ maxInflated → ¬Gzip.trailerOf data <+: behind →
        ∃ e : EnvelopeError, found = .error e ∧ e.IsCorrupt)) ∧
    (∀ bytes result, unwrapEnvelope bytes = .ok (.inflated result) → result.size ≤ maxInflated) ∧
    ∀ bytes, ¬Gzip.magic <+: octets bytes → unwrapEnvelope bytes = .ok (.plain bytes) := by
  refine ⟨fun h stream data behind hstream => ?_, fun bytes result hresult => ?_,
    fun bytes hbytes => ?_⟩
  · intro found
    have hfound : found = Except.map .inflated _ :=
      (unwrapEnvelope_written h stream).trans (congrArg _ (Gzip.unpack_eq h hstream maxInflated))
    clear_value found
    subst hfound
    -- The limit goes before the trailer.
    by_cases hlimit : maxInflated < data.length
    · rw [if_pos hlimit]
      refine ⟨iff_of_true rfl hlimit, fun payload => iff_of_false nofun ?_, ?_⟩
      · exact fun hgood => absurd hlimit (Nat.not_lt.2 hgood.1)
      · exact fun hwithin => absurd hlimit (Nat.not_lt.2 hwithin)
    · have hwithin := Nat.le_of_not_lt hlimit
      rw [if_neg hlimit]
      by_cases hfits : Gzip.trailerOf data <+: behind
      · rw [if_pos hfits]
        refine ⟨iff_of_false nofun hlimit, fun payload => ?_, fun _ hnone => absurd hfits hnone⟩
        constructor
        · exact fun hok => ⟨hwithin, hfits, (Except.ok.inj hok).symm⟩
        · exact fun hgood => congrArg _ hgood.2.2.symm
      · rw [if_neg hfits]
        refine ⟨iff_of_false (fun he => ?_) hlimit,
          fun payload => iff_of_false nofun fun hgood => hfits hgood.2.1, fun _ _ => ⟨_, rfl, ?_⟩⟩
        · have hfault := Except.error.inj he
          split at hfault <;> cases hfault
        · split <;> exact ⟨_, rfl⟩
  · rw [unwrapEnvelope] at hresult
    split at hresult
    · cases hunpack : Gzip.unpack maxInflated (octets bytes) with
      | error e => rw [hunpack] at hresult; cases hresult
      | ok out =>
        rw [hunpack] at hresult
        cases hresult
        exact Gzip.unpack_size_le hunpack
    · cases hresult
  · rw [unwrapEnvelope, if_neg fun hgzip => hbytes ((isGzip_iff bytes).1 hgzip)]

section Boundary

/-- A block of zeros. -/
def zeroBlock (n : Nat) (h : n ≤ 65535) : StoredBlock where
  bytes := List.replicate n 0
  padding := ⟨0, by decide⟩
  length_le := by rw [List.length_replicate]; exact h

/-- Blocks of zeros: 1024 full ones and a last one. -/
def zeroStream (n : Nat) (h : n ≤ 65535) : StoredStream where
  front := List.replicate 1024 (zeroBlock 65535 (Nat.le_refl _))
  last := zeroBlock n h

/-- The stream of zeros has 1024 full blocks and `n` bytes more. -/
theorem length_zeroStream (n : Nat) (h : n ≤ 65535) :
    (zeroStream n h).bytes.length = 1024 * 65535 + n := by
  rw [zeroStream, StoredStream.bytes, List.length_append, List.length_flatMap, List.map_replicate,
    List.sum_replicate]
  simp only [zeroBlock, List.length_replicate, smul_eq_mul]

/-- A block of kind 1 with the letter `a`. -/
theorem inflatesTo_letter (behind : List UInt8) :
    InflatesTo ([0x4b, 0x04, 0x00] ++ behind) [0x61] behind := by
  obtain ⟨codes, hcodes⟩ : ∃ codes, Deflate.fixedCodes = some codes :=
    Option.isSome_iff_exists.1 (by decide +kernel)
  have hpath (way : List Bool) (symbol : Nat)
      (h : Deflate.fixedCodes.map (·.literals.follow? way) = some (some symbol)) :
      codes.literals.Path way symbol := by
    rw [hcodes] at h
    exact Deflate.CodeTree.path_iff_follow?.2 (Option.some.inj h)
  let letter := [true, false, false, true, false, false, false, true]
  let stop := List.replicate 7 false
  have hsteps : Deflate.Steps codes (letter ++ stop) [] [0x61] :=
    .literal (.literal ⟨nofun, hpath letter 97 (by decide +kernel)⟩ (by decide))
      (.last (.endOfBlock ⟨nofun, hpath stop 256 (by decide +kernel)⟩))
  have hblock := Deflate.Block.fixed (List.replicate 6 false ++ Deflate.bitsOf behind)
    (Deflate.fixedCodes_eq_some_iff.1 hcodes) hsteps
  have hblocks : Deflate.Blocks (true :: ([true, false] ++ (letter ++ stop ++
      (List.replicate 6 false ++ Deflate.bitsOf behind)))) [] [0x61] behind :=
    .last rfl hblock (by decide)
  exact hblocks

/-- Members at the limit and at one byte more, and a short one with a wrong trailer. -/
theorem unwrapEnvelope_exact_zeros :
    let plain : Gzip.Header := { origin := #v[0, 0, 0, 0, 0, 255] }
    let full := zeroStream 1024 (by decide)
    let longer := zeroStream 1025 (by decide)
    unwrapEnvelope (ofOctets (plain.written ++ (full.written ++ Gzip.trailerOf full.bytes)))
      = .ok (.inflated (ofOctets full.bytes)) ∧
    unwrapEnvelope (ofOctets (plain.written ++ (longer.written ++ []))) = .error .overflow ∧
    ∃ e : EnvelopeError, unwrapEnvelope (ofOctets (plain.written ++
      ([0x4b, 0x04, 0x00] ++ List.replicate 8 0))) = .error e ∧ e.IsCorrupt := by
  intro plain full longer
  have hfull : full.bytes.length = maxInflated := length_zeroStream 1024 (by decide)
  have hlonger : longer.bytes.length = maxInflated + 1 := length_zeroStream 1025 (by decide)
  obtain ⟨-, hok, -⟩ := unwrapEnvelope_exact.1 plain (full.inflatesTo (Gzip.trailerOf full.bytes))
  obtain ⟨hover, -⟩ := unwrapEnvelope_exact.1 plain (longer.inflatesTo [])
  obtain ⟨-, -, hcorrupt⟩ := unwrapEnvelope_exact.1 plain (inflatesTo_letter (List.replicate 8 0))
  exact ⟨(hok _).2 ⟨Nat.le_of_eq hfull, List.prefix_rfl, rfl⟩,
    hover.2 (hlonger ▸ Nat.lt_succ_self _), hcorrupt (by decide) (by decide +kernel)⟩

end Boundary

end TileScope
