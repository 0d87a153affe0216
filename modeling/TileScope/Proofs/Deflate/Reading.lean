import TileScope.Proofs.Deflate.Format

/-!
# Reading the parts of a stream

Each reader takes the bits of its part: a step of a coded block (`Spells.reads`), a run of lengths
(`LengthRun.reads`), runs up to a number of lengths (`LengthRuns.reads`), a description of codes
(`Description.reads`). The fixed codes are the ones that the format gives
(`fixedCodes_eq_some_iff`). And a copy is put behind the output byte by byte
(`Copied.copyBack_eq`).
-/

namespace TileScope.Deflate

/-! ## Steps -/

/-- Extra bits are taken off a source and added to the base of their code. -/
theorem reads_withExtra {table : Array (Nat × Nat)} {i base : Nat} {more : List Bool}
    (h : table[i]? = some (base, more.length)) :
    Reads (withExtra table i) more (fun s => .ok (base + ofBits more, s)) (.error .incomplete) := by
  intro s gone rest hs
  rcases reads_number rfl hs with ⟨t, hnumber, ht⟩ | ⟨hnumber, hgone⟩
  · exact .inl ⟨t, by simp only [withExtra, h, hnumber], ht⟩
  · exact .inr ⟨by simp only [withExtra, h, hnumber], hgone⟩

/-- **A step is read from its bits.** -/
theorem Spells.reads {codes : Codes} {word : List Bool} {a : Action} (h : Spells codes word a) :
    Reads (readAction codes) word (fun s => .ok (a, s)) (.error .incomplete) := by
  intro s gone rest hs
  cases h with
  | literal h hsymbol =>
    rcases h.reads hs with ⟨t, hread, ht⟩ | ⟨hread, hgone⟩
    · exact .inl ⟨t, by simp only [readAction, hread, if_pos hsymbol], ht⟩
    · exact .inr ⟨by simp only [readAction, hread], hgone⟩
  | endOfBlock h =>
    rcases h.reads hs with ⟨t, hread, ht⟩ | ⟨hread, hgone⟩
    · exact .inl ⟨t, by simp only [readAction, hread, Nat.lt_irrefl, if_false, if_true], ht⟩
    · exact .inr ⟨by simp only [readAction, hread], hgone⟩
  | @copy word word' more more' i i' base base' h hlength h' hdistance =>
    have hbyte : ¬257 + i < 256 := by omega
    have hend : 257 + i ≠ 256 := by omega
    have hindex : 257 + i - 257 = i := Nat.add_sub_cancel_left 257 i
    simp only [List.append_assoc] at hs
    rcases h.reads hs with ⟨t, hread, ht⟩ | ⟨hread, hgone⟩
    · rcases reads_withExtra hlength ht with ⟨u, hmore, hu⟩ | ⟨hmore, hgone⟩
      · rcases h'.reads hu with ⟨v, hread', hv⟩ | ⟨hread', hgone⟩
        · rcases reads_withExtra hdistance hv with ⟨w, hmore', hw⟩ | ⟨hmore', hgone⟩
          · exact .inl ⟨w, by simp only [readAction, hread, if_neg hbyte, if_neg hend, hindex,
              hmore, hread', hmore'], hw⟩
          · exact .inr ⟨by simp only [readAction, hread, if_neg hbyte, if_neg hend, hindex, hmore,
              hread', hmore'], hgone⟩
        · exact .inr ⟨by simp only [readAction, hread, if_neg hbyte, if_neg hend, hindex, hmore,
            hread'], hgone⟩
      · exact .inr ⟨by simp only [readAction, hread, if_neg hbyte, if_neg hend, hindex, hmore],
          hgone⟩
    · exact .inr ⟨by simp only [readAction, hread], hgone⟩

/-! ## Codes -/

/-- **The fixed codes are those of the fixed lengths.** -/
theorem fixedCodes_eq_some_iff {codes : Codes} : fixedCodes = some codes ↔ codes.IsFixed := by
  have hlengths : List.replicate 144 8 ++ List.replicate 112 9 ++ List.replicate 24 7
      ++ List.replicate 8 8 = (List.range 288).map fixedLength := by decide +kernel
  have hliterals {t : CodeTree} : CodeTree.ofLengths? false ((List.range 288).map fixedLength)
      = some t ↔ t.IsCodeOf false ((List.range 288).map fixedLength) :=
    CodeTree.ofLengths?_eq_some_iff (by decide +kernel)
  have hdistances {t : CodeTree} : CodeTree.ofLengths? false (List.replicate 32 5) = some t ↔
      t.IsCodeOf false (List.replicate 32 5) :=
    CodeTree.ofLengths?_eq_some_iff fun length hmem => List.eq_of_mem_replicate hmem ▸ (by decide)
  rw [fixedCodes, hlengths]
  constructor
  · intro h
    obtain ⟨literals, hl, h⟩ := Option.bind_eq_some_iff.1 h
    obtain ⟨distances, hd, h⟩ := Option.bind_eq_some_iff.1 h
    obtain rfl := Option.some.inj h
    exact ⟨hliterals.1 hl, hdistances.1 hd⟩
  · intro h
    rw [hliterals.2 h.literals, hdistances.2 h.distances]
    rfl

/-- Lengths of three bits each are taken off a source. -/
theorem reads_shortLengths {short : List (List Bool)} (h : ∀ bits ∈ short, bits.length = 3) :
    Reads (shortLengths short.length) short.flatten (fun s => .ok (short.map ofBits, s))
      (.error .incomplete) := by
  induction short with
  | nil => exact fun s _ _ hs => .inl ⟨s, rfl, hs⟩
  | cons bits short ih =>
    intro s gone rest hs
    rw [List.flatten_cons, List.append_assoc] at hs
    rcases reads_number (h bits List.mem_cons_self) hs with ⟨t, hnumber, ht⟩ | ⟨hnumber, hgone⟩
    · rcases ih (fun b hb => h b (List.mem_cons_of_mem _ hb)) ht with
        ⟨u, hmore, hu⟩ | ⟨hmore, hgone⟩
      · exact .inl ⟨u, by simp only [List.length_cons, shortLengths, hnumber, hmore, List.map_cons],
          hu⟩
      · exact .inr ⟨by simp only [List.length_cons, shortLengths, hnumber, hmore], hgone⟩
    · exact .inr ⟨by simp only [List.length_cons, shortLengths, hnumber], hgone⟩

/-- **A run of lengths is read from its bits.** -/
theorem LengthRun.reads {code : CodeTree} {previous : Option Nat} {word : List Bool}
    {times length : Nat} (h : LengthRun code previous word times length) :
    Reads (lengthRun code previous) word (fun s => .ok ((length, times), s))
      (.error .incomplete) := by
  intro s gone rest hs
  cases h with
  | single h hlength =>
    rcases h.reads hs with ⟨t, hread, ht⟩ | ⟨hread, hgone⟩
    · exact .inl ⟨t, by simp only [lengthRun, hread, if_pos hlength], ht⟩
    · exact .inr ⟨by simp only [lengthRun, hread], hgone⟩
  | again h hprevious hmore =>
    rw [List.append_assoc] at hs
    rcases h.reads hs with ⟨t, hread, ht⟩ | ⟨hread, hgone⟩
    · rcases reads_number hmore ht with ⟨u, hnumber, hu⟩ | ⟨hnumber, hgone⟩
      · exact .inl ⟨u, by simp [lengthRun, hread, hprevious, hnumber], hu⟩
      · exact .inr ⟨by simp [lengthRun, hread, hprevious, hnumber], hgone⟩
    · exact .inr ⟨by simp only [lengthRun, hread], hgone⟩
  | zeros h hmore =>
    rw [List.append_assoc] at hs
    rcases h.reads hs with ⟨t, hread, ht⟩ | ⟨hread, hgone⟩
    · rcases reads_number hmore ht with ⟨u, hnumber, hu⟩ | ⟨hnumber, hgone⟩
      · exact .inl ⟨u, by simp [lengthRun, hread, hnumber], hu⟩
      · exact .inr ⟨by simp [lengthRun, hread, hnumber], hgone⟩
    · exact .inr ⟨by simp only [lengthRun, hread], hgone⟩
  | manyZeros h hmore =>
    rw [List.append_assoc] at hs
    rcases h.reads hs with ⟨t, hread, ht⟩ | ⟨hread, hgone⟩
    · rcases reads_number hmore ht with ⟨u, hnumber, hu⟩ | ⟨hnumber, hgone⟩
      · exact .inl ⟨u, by simp [lengthRun, hread, hnumber], hu⟩
      · exact .inr ⟨by simp [lengthRun, hread, hnumber], hgone⟩
    · exact .inr ⟨by simp only [lengthRun, hread], hgone⟩

/-- A run brings at least one length, and none above fifteen. -/
theorem LengthRun.times_pos {code : CodeTree} {previous : Option Nat} {word : List Bool}
    {times length : Nat} (h : LengthRun code previous word times length) : 0 < times := by
  cases h <;> omega

/-- A run repeats a length within the largest one. -/
theorem LengthRun.length_le {code : CodeTree} {previous : Option Nat} {word : List Bool}
    {times length : Nat} (h : LengthRun code previous word times length)
    (hprevious : ∀ n, previous = some n → n ≤ CodeTree.maxLength) :
    length ≤ CodeTree.maxLength := by
  cases h with
  | single _ hlength => exact Nat.le_of_lt_succ hlength
  | again _ h _ => exact hprevious _ h
  | zeros => exact Nat.zero_le _
  | manyZeros => exact Nat.zero_le _

section LengthRuns

variable {code : CodeTree} {bits : List Bool} {lengths result : List Nat}

/-- Runs add to the lengths that were there. -/
theorem LengthRuns.length_le (h : LengthRuns code bits lengths result) :
    lengths.length ≤ result.length := by
  induction h with
  | done => exact Nat.le_refl _
  | run _ _ ih =>
    rw [List.length_append] at ih
    omega

/-- Runs keep all lengths within the largest one. -/
theorem LengthRuns.le_maxLength (h : LengthRuns code bits lengths result)
    (hlengths : ∀ n ∈ lengths, n ≤ CodeTree.maxLength) : ∀ n ∈ result, n ≤ CodeTree.maxLength := by
  induction h with
  | done => exact hlengths
  | run hrun _ ih =>
    refine ih fun n hn => ?_
    rcases List.mem_append.1 hn with hn | hn
    · exact hlengths n hn
    · rw [List.eq_of_mem_replicate hn]
      exact hrun.length_le fun m hm => hlengths m (List.mem_of_getLast? hm)

/-- **Runs of lengths are read up to the number that is missing.** -/
theorem LengthRuns.reads (h : LengthRuns code bits lengths result) {missing : Nat}
    (hmissing : result.length = lengths.length + missing) :
    Reads (codeLengths code missing lengths.reverse) bits (fun s => .ok (result, s))
      (.error .incomplete) := by
  induction h generalizing missing with
  | done lengths =>
    have hzero : missing = 0 := by omega
    intro s gone rest hs
    refine .inl ⟨s, ?_, hs⟩
    rw [codeLengths, if_pos hzero, List.reverse_reverse]
  | @run word bits times length lengths result hrun hruns ih =>
    have hpos := hrun.times_pos
    have hle := hruns.length_le
    rw [List.length_append, List.length_replicate] at hle
    have htimes : 0 < times ∧ times ≤ missing := by omega
    have hleft : result.length = (lengths ++ List.replicate times length).length
        + (missing - times) := by
      rw [List.length_append, List.length_replicate]
      omega
    have hrest := ih hleft
    rw [List.reverse_append, List.reverse_replicate] at hrest
    intro s gone rest hs
    rw [List.append_assoc] at hs
    have hhead : lengths.reverse.head? = lengths.getLast? := List.head?_reverse
    rcases hrun.reads hs with ⟨t, hread, ht⟩ | ⟨hread, hgone⟩
    · have hstep : codeLengths code missing lengths.reverse s = codeLengths code (missing - times)
          (List.replicate times length ++ lengths.reverse) t := by
        rw [codeLengths, if_neg (by omega)]
        simp only [hhead, hread, dif_pos htimes]
      simp only [hstep]
      exact hrest ht
    · refine .inr ⟨?_, hgone⟩
      rw [codeLengths, if_neg (by omega)]
      simp only [hhead, hread]

end LengthRuns

/-- In a list of distinct keys with values beside them, a key's value is the one at its place. -/
theorem lookup_zip {keys values : List Nat} (hkeys : keys.Nodup) {place key : Nat}
    (h : keys[place]? = some key) : (keys.zip values).lookup key = values[place]? := by
  induction keys generalizing values place with
  | nil => simp at h
  | cons k keys ih =>
    obtain ⟨hk, hkeys⟩ := List.nodup_cons.1 hkeys
    cases values with
    | nil => simp
    | cons v values =>
      rw [List.zip_cons_cons, List.lookup_cons]
      cases place with
      | zero =>
        rw [List.getElem?_cons_zero, Option.some.injEq] at h
        simp [h]
      | succ place =>
        rw [List.getElem?_cons_succ] at h
        have hne : ¬key = k := by
          rintro rfl
          exact hk (List.mem_of_getElem? h)
        rw [beq_eq_false_iff_ne.2 hne, List.getElem?_cons_succ]
        exact ih hkeys h

namespace Description

variable (d : Description)

/-- The lengths of the words of the short code, in the order of their symbols. -/
theorem shortLengths_eq : (List.range 19).map
    (fun i => ((lengthOrder.zip (d.short.map ofBits)).lookup i).getD 0) = d.shortLengths := by
  have hplace : ∀ i < 19, ∃ place < 19, lengthOrder[place]? = some i := by decide
  refine List.ext_getElem? fun i => ?_
  by_cases hi : i < 19
  · obtain ⟨place, -, horder⟩ := hplace i hi
    rw [List.getElem?_map, List.getElem?_range hi, Option.map_some,
      lookup_zip (by decide) horder, d.getElem?_shortLengths place i horder, List.getElem?_map]
  · rw [List.getElem?_eq_none (by simpa using hi),
      List.getElem?_eq_none (by rw [d.length_shortLengths]; omega)]

/-- The lengths of the length code are within the largest one. -/
theorem shortLengths_le : ∀ length ∈ d.shortLengths, length ≤ CodeTree.maxLength := by
  rw [← d.shortLengths_eq]
  intro length hmem
  obtain ⟨i, -, rfl⟩ := List.mem_map.1 hmem
  cases hlookup : (lengthOrder.zip (d.short.map ofBits)).lookup i with
  | none => exact Nat.zero_le _
  | some n =>
    obtain ⟨l, r, hl, -⟩ := List.lookup_eq_some_iff.1 hlookup
    have hzip : (i, n) ∈ lengthOrder.zip (d.short.map ofBits) := by
      rw [hl]
      exact List.mem_append_right _ List.mem_cons_self
    obtain ⟨bits, hbits, rfl⟩ := List.mem_map.1 (List.of_mem_zip hzip).2
    have hlt := ofBits_lt bits
    rw [d.length_of_mem_short bits hbits] at hlt
    exact Nat.le_of_lt (Nat.lt_trans hlt (by decide))

/-- The numbers of lengths stand in one number of fourteen bits. -/
theorem counts_eq {counts : Nat}
    (h : counts = ofBits (d.literalBits ++ d.distanceBits ++ d.shortBits)) :
    counts % 32 = ofBits d.literalBits ∧ counts / 32 % 32 = ofBits d.distanceBits ∧
      counts / 1024 = ofBits d.shortBits := by
  have hliteral := ofBits_lt d.literalBits
  have hdistance := ofBits_lt d.distanceBits
  rw [d.length_literalBits] at hliteral
  rw [d.length_distanceBits] at hdistance
  rw [ofBits_append, ofBits_append, List.length_append, d.length_literalBits,
    d.length_distanceBits] at h
  omega

/-- **A description is read from its bits.** -/
theorem reads : Reads describedCodes d.bits (fun s => .ok (d.codes, s)) (.error .incomplete) := by
  intro s gone rest hs
  rw [bits, List.append_assoc, List.append_assoc d.short.flatten] at hs
  have hfourteen : (d.literalBits ++ d.distanceBits ++ d.shortBits).length = 14 := by
    rw [List.length_append, List.length_append, d.length_literalBits, d.length_distanceBits,
      d.length_shortBits]
  obtain ⟨hliteral, hdistance, hshort⟩ := d.counts_eq rfl
  have hwithin : ¬(286 < ofBits d.literalBits + 257 ∨ 30 < ofBits d.distanceBits + 1) := by
    have := d.literalBits_le
    have := d.distanceBits_le
    omega
  have hcode := d.isCode.ofLengths?_eq_some d.shortLengths_le
  have hlengths := d.inRuns.le_maxLength fun _ h => absurd h List.not_mem_nil
  have hliterals := d.literals.ofLengths?_eq_some fun n hn => hlengths n (List.mem_of_mem_take hn)
  have hdistances := d.distances.ofLengths?_eq_some fun n hn => hlengths n (List.mem_of_mem_drop hn)
  have hmissing := d.length_lengths.trans (Nat.zero_add _).symm
  -- The bits may end in the numbers, in the short lengths or in the runs.
  rcases reads_number hfourteen hs with ⟨t, hnumber, ht⟩ | ⟨hnumber, hgone⟩
  · rcases reads_shortLengths d.length_of_mem_short ht with ⟨u, hshorts, hu⟩ | ⟨hshorts, hgone⟩
    · rcases d.inRuns.reads hmissing hu with ⟨v, hruns, hv⟩ | ⟨hruns, hgone⟩
      · exact .inl ⟨v, by simp only [describedCodes, hnumber, hliteral, hdistance, hshort,
          if_neg hwithin, ← d.length_short, hshorts, d.shortLengths_eq, hcode,
          List.reverse_nil ▸ hruns, hliterals, hdistances], hv⟩
      · exact .inr ⟨by simp only [describedCodes, hnumber, hliteral, hdistance, hshort,
          if_neg hwithin, ← d.length_short, hshorts, d.shortLengths_eq, hcode,
          List.reverse_nil ▸ hruns], hgone⟩
    · exact .inr ⟨by simp only [describedCodes, hnumber, hliteral, hdistance, hshort,
        if_neg hwithin, ← d.length_short, hshorts], hgone⟩
  · exact .inr ⟨by simp only [describedCodes, hnumber], hgone⟩

end Description

/-! ## Copies -/

/-- A copy goes back at least one byte. -/
theorem Spells.distance_pos {codes : Codes} {word : List Bool} {length distance : Nat}
    (h : Spells codes word (.copy length distance)) : 0 < distance := by
  have hbase : ∀ e ∈ distanceCodes, 0 < e.1 := by decide
  cases h with
  | copy _ _ _ hdistance =>
    have := hbase _ (Array.mem_of_getElem? hdistance)
    omega

/-- **A copy is put behind the output byte by byte.** -/
theorem Copied.copyBack_eq {length distance : Nat} {out result : List UInt8}
    (h : Copied length distance out result) (hdistance : 0 < distance) :
    copyBack distance length (ofOctets out) = ofOctets result := by
  -- Byte by byte: the next one is found `distance` back from the end of the output.
  induction length generalizing out with
  | zero => rw [copyBack, h.keeps.eq_of_length h.length_eq.symm]
  | succ length ih =>
    obtain ⟨more, rfl⟩ := h.keeps
    have hlength := h.length_eq
    rw [List.length_append] at hlength
    cases more with
    | nil => simp at hlength
    | cons b more =>
      have hback := h.back out.length (Nat.le_refl _)
        (by rw [List.length_append, List.length_cons]; omega)
      have hnext : (if distance ≤ (ofOctets out).size then
          (ofOctets out)[(ofOctets out).size - distance]?.getD 0 else 0) = b := by
        rw [size_ofOctets, getElem?_octets, octets_ofOctets]
        rw [List.getElem?_append_right (Nat.le_refl _), Nat.sub_self, List.getElem?_cons_zero]
          at hback
        split
        · next hle =>
          rw [if_pos hle, List.getElem?_append_left (by omega)] at hback
          rw [← hback]
          rfl
        · next hgt =>
          rw [if_neg hgt] at hback
          exact (Option.some.inj hback).symm
      have hrest : Copied length distance (out ++ [b]) (out ++ b :: more) :=
        { keeps := ⟨more, by simp⟩
          length_eq := by rw [h.length_eq]; simp; omega
          back := fun i hi => h.back i (by simp at hi; omega) }
      dsimp only [copyBack]
      rw [hnext, push_ofOctets, ih hrest]

end TileScope.Deflate
