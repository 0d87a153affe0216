import TileScope.Deflate.CodeTree

/-!
# Inflation

A deflate stream is a row of blocks. A stored block holds its bytes as they are; the two coded
kinds hold literal bytes and copies from up to 32 KiB back, the codes either fixed or described at
the start of the block. Inflation gives the bytes and what follows the stream.

The output is limited. It is handed on whenever a window of 32 KiB is full, whenever a portion of
32 KiB of the input is used up, and at the end; passing the limit is noticed at the first hand-over
after it happened, unless a fault in the stream is met before that. So once the limit is passed,
only the rest of the portion is read, and the window cannot be passed. A copy from before the start
of the output copies zeros: the window starts out cleared.
-/

namespace TileScope.Deflate

/-- Why a stream does not inflate. -/
inductive Fault where
  /-- The stream breaks a rule of the format. -/
  | corrupt
  /-- The stream ends early. -/
  | incomplete
  /-- The output passes the limit. -/
  | overflow
deriving DecidableEq, Repr

/-- The bytes handed on together, and the reach of a copy. -/
def windowSize : Nat := 32768

/-- The bytes of input that are taken together. -/
def portionSize : Nat := 32768

/-- What inflation is bounded by: the largest output, and the size of the input at the end of which
the stream stands. -/
structure Bounds where
  limit : Nat
  inputSize : Nat

namespace Bounds

/-- The largest output that may be waiting to be handed on: up to the end of the window in which
the limit is passed. -/
def room (b : Bounds) : Nat := (b.limit / windowSize + 1) * windowSize

/-- The source when the output grows from one size to another. -/
def ahead (b : Bounds) (before after : Nat) (s : BitSource) : BitSource :=
  if before ≤ b.limit ∧ b.limit < after then s.portion portionSize b.inputSize else s

/-- When the output grows the source has no more bits than it had. -/
theorem ahead_size (b : Bounds) (before after : Nat) (s : BitSource) :
    (b.ahead before after s).size ≤ s.size := by
  unfold ahead
  split
  · exact s.portion_size _ _
  · exact Nat.le_refl _

/-- When the output grows the source has no more bytes than it had. -/
theorem ahead_length (b : Bounds) (before after : Nat) (bytes : List UInt8) :
    (b.ahead before after (.ofBytes bytes)).bytes.length ≤ bytes.length := by
  unfold ahead
  split
  · simp only [BitSource.portion, BitSource.ofBytes, List.length_take]
    omega
  · exact Nat.le_refl _

end Bounds

/-- The end of what can be read before the end of the stream: the output so far is handed on, so
the limit is looked at first. -/
def starved (bounds : Bounds) (out : ByteArray) : Fault :=
  if bounds.limit < out.size then .overflow else .incomplete

/-- The end of the stream: the rest of the output is handed on. -/
def finished (bounds : Bounds) (out : ByteArray) (rest : List UInt8) :
    Except Fault (ByteArray × List UInt8) :=
  if bounds.limit < out.size then .error .overflow else .ok (out, rest)

/-- Length codes `257` to `285`: least length and number of extra bits. -/
def lengthCodes : Array (Nat × Nat) :=
  #[(3, 0), (4, 0), (5, 0), (6, 0), (7, 0), (8, 0), (9, 0), (10, 0), (11, 1), (13, 1), (15, 1),
    (17, 1), (19, 2), (23, 2), (27, 2), (31, 2), (35, 3), (43, 3), (51, 3), (59, 3), (67, 4),
    (83, 4), (99, 4), (115, 4), (131, 5), (163, 5), (195, 5), (227, 5), (258, 0)]

/-- Distance codes: least distance and number of extra bits. -/
def distanceCodes : Array (Nat × Nat) :=
  #[(1, 0), (2, 0), (3, 0), (4, 0), (5, 1), (7, 1), (9, 2), (13, 2), (17, 3), (25, 3), (33, 4),
    (49, 4), (65, 5), (97, 5), (129, 6), (193, 6), (257, 7), (385, 7), (513, 8), (769, 8),
    (1025, 9), (1537, 9), (2049, 10), (3073, 10), (4097, 11), (6145, 11), (8193, 12), (12289, 12),
    (16385, 13), (24577, 13)]

/-- The codes of a coded block. -/
structure Codes where
  literals : CodeTree
  distances : CodeTree

/-- What one step of a coded block says. -/
inductive Action where
  | literal (byte : UInt8)
  | copy (length distance : Nat)
  | endOfBlock

/-- Reads a base value and its extra bits. -/
def withExtra (codes : Array (Nat × Nat)) (i : Nat) (s : BitSource) :
    Except Fault (Nat × BitSource) :=
  match codes[i]? with
  | none => .error .corrupt
  | some (base, extra) =>
    match s.number? extra with
    | none => .error .incomplete
    | some (more, s) => .ok (base + more, s)

/-- Reads one symbol of a code. -/
def readSymbol (code : CodeTree) (s : BitSource) : Except Fault (Nat × BitSource) :=
  match code.read s with
  | .symbol symbol rest => .ok (symbol, rest)
  | .astray => .error .corrupt
  | .starved => .error .incomplete

/-- Reads one step of a coded block. -/
def readAction (codes : Codes) (s : BitSource) : Except Fault (Action × BitSource) :=
  match readSymbol codes.literals s with
  | .error e => .error e
  | .ok (symbol, s) =>
    if symbol < 256 then .ok (.literal symbol.toUInt8, s)
    else if symbol = 256 then .ok (.endOfBlock, s)
    else
      match withExtra lengthCodes (symbol - 257) s with
      | .error e => .error e
      | .ok (length, s) =>
        match readSymbol codes.distances s with
        | .error e => .error e
        | .ok (symbol, s) =>
          match withExtra distanceCodes symbol s with
          | .error e => .error e
          | .ok (distance, s) => .ok (.copy length distance, s)

/-- Extra bits leave no more bits than there were. -/
theorem withExtra_size {codes : Array (Nat × Nat)} {i : Nat} {s r : BitSource} {v : Nat}
    (h : withExtra codes i s = .ok (v, r)) : r.size ≤ s.size := by
  unfold withExtra at h
  split at h
  · simp at h
  · split at h
    · simp at h
    · next hm =>
      simp only [Except.ok.injEq, Prod.mk.injEq] at h
      exact h.2 ▸ BitSource.number?_size hm

/-- A symbol that is read takes at least one bit. -/
theorem readSymbol_size {code : CodeTree} {s r : BitSource} {v : Nat}
    (h : readSymbol code s = .ok (v, r)) : r.size < s.size := by
  unfold readSymbol at h
  split at h
  · next hr =>
    simp only [Except.ok.injEq, Prod.mk.injEq] at h
    exact h.2 ▸ CodeTree.read_size hr
  · simp at h
  · simp at h

/-- An action takes at least one bit. -/
theorem readAction_size {codes : Codes} {s r : BitSource} {a : Action}
    (h : readAction codes s = .ok (a, r)) : r.size < s.size := by
  unfold readAction at h
  split at h
  · simp at h
  · next hs =>
    have h1 := readSymbol_size hs
    split at h
    · simp only [Except.ok.injEq, Prod.mk.injEq] at h
      exact h.2 ▸ h1
    · split at h
      · simp only [Except.ok.injEq, Prod.mk.injEq] at h
        exact h.2 ▸ h1
      · split at h
        · simp at h
        · next hl =>
          have h2 := withExtra_size hl
          split at h
          · simp at h
          · next hd =>
            have h3 := readSymbol_size hd
            split at h
            · simp at h
            · next he =>
              have h4 := withExtra_size he
              simp only [Except.ok.injEq, Prod.mk.injEq] at h
              rw [← h.2]
              omega

/-- Appends `n` bytes, each a copy of the one `distance` back. -/
def copyBack (distance : Nat) : Nat → ByteArray → ByteArray
  | 0, out => out
  | n + 1, out =>
    let b := if distance ≤ out.size then out[out.size - distance]?.getD 0 else 0
    copyBack distance n (out.push b)

/-- Inflates a coded block up to its end. -/
def codedBlock (bounds : Bounds) (codes : Codes) (s : BitSource) (out : ByteArray) :
    Except Fault (ByteArray × BitSource) :=
  match _h : readAction codes s with
  | .error .incomplete => .error (starved bounds out)
  | .error e => .error e
  | .ok (.endOfBlock, s) => .ok (out, s)
  | .ok (.literal byte, s) =>
    if bounds.room < out.size + 1 then .error .overflow
    else codedBlock bounds codes (bounds.ahead out.size (out.size + 1) s) (out.push byte)
  | .ok (.copy length distance, s) =>
    if bounds.room < out.size + length then .error .overflow
    else
      codedBlock bounds codes (bounds.ahead out.size (out.size + length) s)
        (copyBack distance length out)
termination_by s.size
decreasing_by
  all_goals exact Nat.lt_of_le_of_lt (bounds.ahead_size _ _ _) (readAction_size _h)

/-- Moves `n` bytes to the output. -/
def storedBytes (bounds : Bounds) : Nat → List UInt8 → ByteArray →
    Except Fault (ByteArray × List UInt8)
  | 0, bytes, out => .ok (out, bytes)
  | _ + 1, [], out => .error (starved bounds out)
  | n + 1, b :: rest, out =>
    if bounds.room < out.size + 1 then .error .overflow
    else if out.size = bounds.limit then
      storedBytes bounds n (bounds.ahead out.size (out.size + 1) (.ofBytes rest)).bytes (out.push b)
    else storedBytes bounds n rest (out.push b)

/-- Inflates a stored block: length, complement of the length, and the bytes. -/
def storedBlock (bounds : Bounds) (bytes : List UInt8) (out : ByteArray) :
    Except Fault (ByteArray × List UInt8) :=
  match bytes with
  | a :: b :: c :: d :: rest =>
    let length := a.toNat + 256 * b.toNat
    if c.toNat + 256 * d.toNat = 65535 - length then storedBytes bounds length rest out
    else .error .corrupt
  | _ => .error (starved bounds out)

/-- The codes of a block of the fixed kind. -/
def fixedCodes : Option Codes := do
  let literals ← CodeTree.ofLengths? false
    (List.replicate 144 8 ++ List.replicate 112 9 ++ List.replicate 24 7 ++ List.replicate 8 8)
  let distances ← CodeTree.ofLengths? false (List.replicate 32 5)
  return ⟨literals, distances⟩

/-- The order in which a block gives the lengths of the code of lengths. -/
def lengthOrder : List Nat := [16, 17, 18, 0, 8, 7, 9, 6, 10, 5, 11, 4, 12, 3, 13, 2, 14, 1, 15]

/-- Reads `n` lengths of three bits. -/
def shortLengths : Nat → BitSource → Except Fault (List Nat × BitSource)
  | 0, s => .ok ([], s)
  | n + 1, s =>
    match s.number? 3 with
    | none => .error .incomplete
    | some (length, s) =>
      match shortLengths n s with
      | .error e => .error e
      | .ok (lengths, s) => .ok (length :: lengths, s)

/-- One run of code lengths: a length and how often it comes. -/
def lengthRun (code : CodeTree) (previous : Option Nat) (s : BitSource) :
    Except Fault ((Nat × Nat) × BitSource) :=
  match readSymbol code s with
  | .error e => .error e
  | .ok (symbol, s) =>
    if symbol < 16 then .ok ((symbol, 1), s)
    else
      let plan := match symbol, previous with
        | 16, some length => some (length, 3, 2)
        | 17, _ => some (0, 3, 3)
        | 18, _ => some (0, 11, 7)
        | _, _ => none
      match plan with
      | none => .error .corrupt
      | some (length, least, extra) =>
        match s.number? extra with
        | none => .error .incomplete
        | some (more, s) => .ok ((length, least + more), s)

/-- Reads runs of code lengths until `missing` lengths are there; `lengths` holds those read, last
first. A run past the end breaks the format. -/
def codeLengths (code : CodeTree) (missing : Nat) (lengths : List Nat) (s : BitSource) :
    Except Fault (List Nat × BitSource) :=
  if missing = 0 then .ok (lengths.reverse, s)
  else
    match lengthRun code lengths.head? s with
    | .error e => .error e
    | .ok ((length, times), s) =>
      if _h : 0 < times ∧ times ≤ missing then
        codeLengths code (missing - times) (List.replicate times length ++ lengths) s
      else .error .corrupt
termination_by missing

/-- Reads the codes that a block describes. -/
def describedCodes (s : BitSource) : Except Fault (Codes × BitSource) :=
  match s.number? 14 with
  | none => .error .incomplete
  | some (counts, s) =>
    let literalCount := counts % 32 + 257
    let distanceCount := counts / 32 % 32 + 1
    let shortCount := counts / 1024 + 4
    if 286 < literalCount ∨ 30 < distanceCount then .error .corrupt
    else
      match shortLengths shortCount s with
      | .error e => .error e
      | .ok (short, s) =>
        let given := lengthOrder.zip short
        let ordered := (List.range 19).map fun i => (given.lookup i).getD 0
        match CodeTree.ofLengths? false ordered with
        | none => .error .corrupt
        | some code =>
          match codeLengths code (literalCount + distanceCount) [] s with
          | .error e => .error e
          | .ok (lengths, s) =>
            match CodeTree.ofLengths? true (lengths.take literalCount),
              CodeTree.ofLengths? true (lengths.drop literalCount) with
            | some literals, some distances => .ok (⟨literals, distances⟩, s)
            | _, _ => .error .corrupt

/-- Reads the codes of a coded block: the fixed ones for kind 1, described ones for kind 2. -/
def blockCodes (kind : Nat) (s : BitSource) : Except Fault (Codes × BitSource) :=
  match kind, fixedCodes with
  | 1, some codes => .ok (codes, s)
  | 2, _ => describedCodes s
  | _, _ => .error .corrupt

/-- Inflates one block of a kind, after its header. -/
def block (bounds : Bounds) (kind : Nat) (s : BitSource) (out : ByteArray) :
    Except Fault (ByteArray × BitSource) :=
  if kind = 0 then
    match storedBlock bounds s.wholeBytes out with
    | .error e => .error e
    | .ok (out, rest) => .ok (out, .ofBytes rest)
  else
    match blockCodes kind s with
    | .error .incomplete => .error (starved bounds out)
    | .error e => .error e
    | .ok (codes, s) => codedBlock bounds codes s out

/-- Copying stored bytes leaves no more bytes than there were. -/
theorem storedBytes_length {bounds : Bounds} {n : Nat} {bytes rest : List UInt8}
    {out out' : ByteArray}
    (h : storedBytes bounds n bytes out = .ok (out', rest)) : rest.length ≤ bytes.length := by
  induction n generalizing bytes out with
  | zero =>
    simp only [storedBytes, Except.ok.injEq, Prod.mk.injEq] at h
    exact h.2 ▸ Nat.le_refl _
  | succ n ih =>
    cases bytes with
    | nil => simp [storedBytes] at h
    | cons b tail =>
      rw [storedBytes] at h
      split at h
      · simp at h
      · split at h
        · exact Nat.le_trans (ih h) (Nat.le_trans (bounds.ahead_length _ _ tail) (Nat.le_succ _))
        · exact Nat.le_trans (ih h) (Nat.le_succ _)

/-- A stored block leaves no more bytes than there were. -/
theorem storedBlock_length {bounds : Bounds} {bytes rest : List UInt8} {out out' : ByteArray}
    (h : storedBlock bounds bytes out = .ok (out', rest)) : rest.length ≤ bytes.length := by
  unfold storedBlock at h
  split at h
  · simp only at h
    split at h
    · have := storedBytes_length h
      simp only [List.length_cons]
      omega
    · simp at h
  · simp at h

/-- A coded block leaves no more bits than there were. -/
theorem codedBlock_size {bounds : Bounds} {codes : Codes} {s r : BitSource} {out out' : ByteArray}
    (h : codedBlock bounds codes s out = .ok (out', r)) : r.size ≤ s.size := by
  fun_induction codedBlock bounds codes s out with
  | case1 => simp at h
  | case2 => simp at h
  | case3 s out s' ha =>
    simp only [Except.ok.injEq, Prod.mk.injEq] at h
    obtain ⟨-, rfl⟩ := h
    exact Nat.le_of_lt (readAction_size ha)
  | case4 => simp at h
  | case5 s out byte s' ha _ ih =>
    exact Nat.le_trans (ih h)
      (Nat.le_trans (bounds.ahead_size _ _ _) (Nat.le_of_lt (readAction_size ha)))
  | case6 => simp at h
  | case7 s out length distance s' ha _ ih =>
    exact Nat.le_trans (ih h)
      (Nat.le_trans (bounds.ahead_size _ _ _) (Nat.le_of_lt (readAction_size ha)))

/-- The lengths of the length code leave no more bits than there were. -/
theorem shortLengths_size {n : Nat} {s r : BitSource} {lengths : List Nat}
    (h : shortLengths n s = .ok (lengths, r)) : r.size ≤ s.size := by
  induction n generalizing s lengths with
  | zero =>
    simp only [shortLengths, Except.ok.injEq, Prod.mk.injEq] at h
    exact h.2 ▸ Nat.le_refl _
  | succ n ih =>
    rw [shortLengths] at h
    split at h
    · simp at h
    · next hn =>
      split at h
      · simp at h
      · next hl =>
        simp only [Except.ok.injEq, Prod.mk.injEq] at h
        obtain ⟨-, rfl⟩ := h
        exact Nat.le_trans (ih hl) (BitSource.number?_size hn)

/-- A run of lengths leaves no more bits than there were. -/
theorem lengthRun_size {code : CodeTree} {previous : Option Nat} {s r : BitSource} {v : Nat × Nat}
    (h : lengthRun code previous s = .ok (v, r)) : r.size ≤ s.size := by
  unfold lengthRun at h
  split at h
  · simp at h
  · next hs =>
    have h1 := readSymbol_size hs
    split at h
    · simp only [Except.ok.injEq, Prod.mk.injEq] at h
      obtain ⟨-, rfl⟩ := h
      exact Nat.le_of_lt h1
    · simp only at h
      split at h
      · simp at h
      · split at h
        · simp at h
        · next hm =>
          simp only [Except.ok.injEq, Prod.mk.injEq] at h
          obtain ⟨-, rfl⟩ := h
          exact Nat.le_trans (BitSource.number?_size hm) (Nat.le_of_lt h1)

/-- The lengths of a code leave no more bits than there were. -/
theorem codeLengths_size {code : CodeTree} {missing : Nat} {lengths result : List Nat}
    {s r : BitSource} (h : codeLengths code missing lengths s = .ok (result, r)) :
    r.size ≤ s.size := by
  fun_induction codeLengths code missing lengths s with
  | case1 =>
    simp only [Except.ok.injEq, Prod.mk.injEq] at h
    exact h.2 ▸ Nat.le_refl _
  | case2 => simp at h
  | case3 _ _ _ _ _ _ _ hr _ ih => exact Nat.le_trans (ih h) (lengthRun_size hr)
  | case4 => simp at h

/-- The codes that a block describes leave no more bits than there were. -/
theorem describedCodes_size {s r : BitSource} {codes : Codes}
    (h : describedCodes s = .ok (codes, r)) : r.size ≤ s.size := by
  unfold describedCodes at h
  split at h
  · simp at h
  · next hc =>
    have h1 := BitSource.number?_size hc
    simp only at h
    split at h
    · simp at h
    · split at h
      · simp at h
      · next hs =>
        have h2 := shortLengths_size hs
        split at h
        · simp at h
        · split at h
          · simp at h
          · next hl =>
            have h3 := codeLengths_size hl
            split at h
            · simp only [Except.ok.injEq, Prod.mk.injEq] at h
              obtain ⟨-, rfl⟩ := h
              omega
            · simp at h

/-- The codes of a block, fixed or described, leave no more bits than there were. -/
theorem blockCodes_size {kind : Nat} {s r : BitSource} {codes : Codes}
    (h : blockCodes kind s = .ok (codes, r)) : r.size ≤ s.size := by
  unfold blockCodes at h
  split at h
  · simp only [Except.ok.injEq, Prod.mk.injEq] at h
    exact h.2 ▸ Nat.le_refl _
  · exact describedCodes_size h
  · simp at h

/-- A block of any kind leaves no more bits than there were. -/
theorem block_size {bounds : Bounds} {kind : Nat} {s r : BitSource} {out out' : ByteArray}
    (h : block bounds kind s out = .ok (out', r)) : r.size ≤ s.size := by
  unfold block at h
  split at h
  · split at h
    · simp at h
    · next hb =>
      simp only [Except.ok.injEq, Prod.mk.injEq] at h
      obtain ⟨-, rfl⟩ := h
      have := storedBlock_length hb
      have := s.wholeBytes_length
      rw [BitSource.ofBytes_size]
      omega
  · split at h
    · simp at h
    · simp at h
    · next hc => exact Nat.le_trans (codedBlock_size h) (blockCodes_size hc)

/-- Inflates blocks up to the one marked as the last. -/
def blocks (bounds : Bounds) (s : BitSource) (out : ByteArray) :
    Except Fault (ByteArray × List UInt8) :=
  match _hh : s.number? 3 with
  | none => .error (starved bounds out)
  | some (header, t) =>
    match _hb : block bounds (header / 2) t out with
    | .error e => .error e
    | .ok (out, r) =>
      if header % 2 = 1 then finished bounds out r.wholeBytes else blocks bounds r out
termination_by s.size
decreasing_by exact Nat.lt_of_le_of_lt (block_size _hb) (BitSource.number?_succ_size _hh)

/-- Inflates a stream to at most `limit` bytes. The stream stands at the end of an input, which may
have other bytes in front. Gives the bytes and what follows the stream. -/
def inflate (limit inputSize : Nat) (bytes : List UInt8) :
    Except Fault (ByteArray × List UInt8) :=
  blocks ⟨limit, inputSize⟩ (.ofBytes bytes) .empty

end TileScope.Deflate
