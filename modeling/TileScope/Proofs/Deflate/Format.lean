import TileScope.Proofs.Deflate.Code
import TileScope.Proofs.Deflate.Stored

/-!
# The deflate format

What a stream inflates to, said without a reader and without a limit.

| part | bits |
| --- | --- |
| block | whether it is the last, two bits of its kind, and what the kind says |
| stored block (kind 0) | up to the next byte border, the length and its complement, the bytes |
| block with the fixed codes (kind 1) | steps |
| block with codes of its own (kind 2) | a description of the codes, steps |
| step | the word of a byte; or of a length and of a distance, each with extra bits; or of the end |
| description | the numbers of lengths, the code of the lengths, the lengths in runs |

A copy may reach back to before the start of the output, where zeros stand; in a stream that keeps
to the format none does.
-/

namespace TileScope.Deflate

/-- The output with a copy behind it, each byte of which is the one at a distance before it. -/
structure Copied (length distance : Nat) (out result : List UInt8) : Prop where
  keeps : out <+: result
  length_eq : result.length = out.length + length
  back : ∀ i, out.length ≤ i → i < result.length →
    result[i]? = if distance ≤ i then result[i - distance]? else some 0

/-! ## Steps -/

section Steps

variable (codes : Codes)

/-- The bits of one step. -/
inductive Spells : List Bool → Action → Prop
  | literal {word : List Bool} {symbol : Nat} (h : codes.literals.Word word symbol)
    (hsymbol : symbol < 256) : Spells word (.literal symbol.toUInt8)
  | endOfBlock {word : List Bool} (h : codes.literals.Word word 256) : Spells word .endOfBlock
  | copy {word word' more more' : List Bool} {i i' base base' : Nat}
    (h : codes.literals.Word word (257 + i)) (hlength : lengthCodes[i]? = some (base, more.length))
    (h' : codes.distances.Word word' i')
    (hdistance : distanceCodes[i']? = some (base', more'.length)) :
    Spells (word ++ (more ++ (word' ++ more'))) (.copy (base + ofBits more) (base' + ofBits more'))

/-- The bits of a coded block, and what the output becomes. -/
inductive Steps : List Bool → List UInt8 → List UInt8 → Prop
  | last {word : List Bool} {out : List UInt8} (h : Spells codes word .endOfBlock) :
    Steps word out out
  | literal {word bits : List Bool} {b : UInt8} {out result : List UInt8}
    (h : Spells codes word (.literal b)) (hsteps : Steps bits (out ++ [b]) result) :
    Steps (word ++ bits) out result
  | copy {word bits : List Bool} {length distance : Nat} {out next result : List UInt8}
    (h : Spells codes word (.copy length distance)) (hcopied : Copied length distance out next)
    (hsteps : Steps bits next result) : Steps (word ++ bits) out result

end Steps

/-! ## Codes -/

/-- How long the words of the fixed code are. -/
def fixedLength (symbol : Nat) : Nat :=
  if symbol < 144 then 8 else if symbol < 256 then 9 else if symbol < 280 then 7 else 8

/-- The codes of a block of kind 1. -/
structure Codes.IsFixed (codes : Codes) : Prop where
  literals : codes.literals.IsCodeOf false ((List.range 288).map fixedLength)
  distances : codes.distances.IsCodeOf false (List.replicate 32 5)

/-- The bits of a run of lengths, behind a last one: how often which length comes. -/
inductive LengthRun (code : CodeTree) (previous : Option Nat) : List Bool → Nat → Nat → Prop
  | single {word : List Bool} {length : Nat} (h : code.Word word length) (hlength : length < 16) :
    LengthRun code previous word 1 length
  | again {word more : List Bool} {length : Nat} (h : code.Word word 16)
    (hprevious : previous = some length) (hmore : more.length = 2) :
    LengthRun code previous (word ++ more) (3 + ofBits more) length
  | zeros {word more : List Bool} (h : code.Word word 17) (hmore : more.length = 3) :
    LengthRun code previous (word ++ more) (3 + ofBits more) 0
  | manyZeros {word more : List Bool} (h : code.Word word 18) (hmore : more.length = 7) :
    LengthRun code previous (word ++ more) (11 + ofBits more) 0

/-- The bits of runs of lengths, from those so far to all of them. -/
inductive LengthRuns (code : CodeTree) : List Bool → List Nat → List Nat → Prop
  | done (lengths : List Nat) : LengthRuns code [] lengths lengths
  | run {word bits : List Bool} {times length : Nat} {lengths result : List Nat}
    (h : LengthRun code lengths.getLast? word times length)
    (hruns : LengthRuns code bits (lengths ++ List.replicate times length) result) :
    LengthRuns code (word ++ bits) lengths result

/-- A description of codes. The code of the lengths comes first, three bits for the length of each
of its words, in an order that lets those at the end be left out. -/
structure Description where
  literalBits : List Bool
  distanceBits : List Bool
  shortBits : List Bool
  short : List (List Bool)
  shortLengths : List Nat
  code : CodeTree
  runs : List Bool
  lengths : List Nat
  codes : Codes
  length_literalBits : literalBits.length = 5
  length_distanceBits : distanceBits.length = 5
  length_shortBits : shortBits.length = 4
  literalBits_le : ofBits literalBits + 257 ≤ 286
  distanceBits_le : ofBits distanceBits + 1 ≤ 30
  length_short : short.length = ofBits shortBits + 4
  length_of_mem_short : ∀ bits ∈ short, bits.length = 3
  length_shortLengths : shortLengths.length = 19
  getElem?_shortLengths : ∀ place symbol : Nat, lengthOrder[place]? = some symbol →
    shortLengths[symbol]? = some ((short[place]?.map ofBits).getD 0)
  isCode : code.IsCodeOf false shortLengths
  inRuns : LengthRuns code runs [] lengths
  length_lengths : lengths.length = ofBits literalBits + 257 + (ofBits distanceBits + 1)
  literals : codes.literals.IsCodeOf true (lengths.take (ofBits literalBits + 257))
  distances : codes.distances.IsCodeOf true (lengths.drop (ofBits literalBits + 257))

/-- The bits of a description. -/
def Description.bits (d : Description) : List Bool :=
  d.literalBits ++ d.distanceBits ++ d.shortBits ++ (d.short.flatten ++ d.runs)

/-! ## Blocks and streams -/

/-- A block of a kind at the start of bits: what the output becomes, and the bits behind the
block. -/
inductive Block : Nat → List Bool → List UInt8 → List UInt8 → List Bool → Prop
  | stored {padding : List Bool} (b : StoredBlock) (out behind : List UInt8)
    (hpadding : padding.length < 8) :
    Block 0 (padding ++ bitsOf (b.body ++ behind)) out (out ++ b.bytes) (bitsOf behind)
  | fixed {codes : Codes} {bits : List Bool} {out result : List UInt8} (rest : List Bool)
    (h : codes.IsFixed) (hsteps : Steps codes bits out result) :
    Block 1 (bits ++ rest) out result rest
  | described (d : Description) {bits : List Bool} {out result : List UInt8} (rest : List Bool)
    (hsteps : Steps d.codes bits out result) : Block 2 (d.bits ++ (bits ++ rest)) out result rest

/-- Blocks up to the last one: what the output becomes, and the bytes behind them. -/
inductive Blocks : List Bool → List UInt8 → List UInt8 → List UInt8 → Prop
  | last {kind bits padding : List Bool} {out result behind : List UInt8} (hkind : kind.length = 2)
    (h : Block (ofBits kind) bits out result (padding ++ bitsOf behind))
    (hpadding : padding.length < 8) : Blocks (true :: (kind ++ bits)) out result behind
  | more {kind bits rest : List Bool} {out next result behind : List UInt8}
    (hkind : kind.length = 2) (h : Block (ofBits kind) bits out next rest)
    (hblocks : Blocks rest next result behind) : Blocks (false :: (kind ++ bits)) out result behind

/-- **The stream at the start of the bytes inflates to `data`**, with some bytes behind it. -/
def InflatesTo (bytes data behind : List UInt8) : Prop := Blocks (bitsOf bytes) [] data behind

/-- Stored blocks inflate to their bytes. -/
theorem StoredStream.inflatesTo (s : StoredStream) (behind : List UInt8) :
    InflatesTo (s.written ++ behind) s.bytes behind := by
  -- Behind the mark of the last block and the kind come the five bits that are not read.
  have hheader (final : Bool) (b : StoredBlock) (rest : List UInt8) :
      bitsOf (b.written final ++ rest) = final :: ([false, false] ++
        ((byteBits (StoredBlock.header final b.padding)).drop 3 ++ bitsOf (b.body ++ rest))) := by
    have hbits : ∀ (final : Bool) (padding : Fin 32),
        (byteBits (StoredBlock.header final padding)).take 3 = [final, false, false] := by decide
    rw [StoredBlock.written, List.cons_append, bitsOf_cons,
      ← List.take_append_drop 3 (byteBits _), hbits]
    rfl
  have hpadding (b : UInt8) : ((byteBits b).drop 3).length < 8 := by
    rw [List.length_drop, length_byteBits]
    decide
  have hblocks (out : List UInt8) :
      Blocks (bitsOf (s.written ++ behind)) out (out ++ s.bytes) behind := by
    obtain ⟨front, last⟩ := s
    induction front generalizing out with
    | nil =>
      rw [written, List.flatMap_nil, List.nil_append, hheader]
      have hlast : Block 0 _ out (out ++ last.bytes) ([] ++ bitsOf behind) :=
        .stored last out behind (hpadding (StoredBlock.header true last.padding))
      exact .last rfl hlast (Nat.succ_pos 7)
    | cons b front ih =>
      rw [written_cons, bytes_cons, List.append_assoc, hheader, ← List.append_assoc out]
      exact .more rfl (.stored b out _ (hpadding _)) (ih _)
  exact hblocks []

end TileScope.Deflate
