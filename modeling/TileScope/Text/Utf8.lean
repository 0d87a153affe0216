import TileScope.Bytes

/-!
# Bytes as UTF-8

Bytes are taken for UTF-8 even if they are not. What is no character is a flaw: a byte that starts
none, or the start of one that does not go on. A reading in which every flaw shows as one
replacement character never fails.
-/

namespace TileScope.Text.Utf8

/-- How a character goes on behind its first byte: by how many bytes, and between which bounds the
first of these is. -/
structure Lead where
  more : Nat
  low : UInt8
  high : UInt8

/-- The lead that a byte is, if it starts a character of several bytes. -/
def lead? (b : UInt8) : Option Lead :=
  if 0xc2 ≤ b ∧ b ≤ 0xdf then some ⟨1, 0x80, 0xbf⟩
  else if b = 0xe0 then some ⟨2, 0xa0, 0xbf⟩
  else if b = 0xed then some ⟨2, 0x80, 0x9f⟩
  else if 0xe1 ≤ b ∧ b ≤ 0xef then some ⟨2, 0x80, 0xbf⟩
  else if b = 0xf0 then some ⟨3, 0x90, 0xbf⟩
  else if 0xf1 ≤ b ∧ b ≤ 0xf3 then some ⟨3, 0x80, 0xbf⟩
  else if b = 0xf4 then some ⟨3, 0x80, 0x8f⟩
  else none

/-- How many of the next bytes, at most `more`, go on with a character. -/
def following (low high : UInt8) : (more : Nat) → List UInt8 → Nat
  | 0, _ => 0
  | _, [] => 0
  | more + 1, b :: rest =>
    if low ≤ b ∧ b ≤ high then following 0x80 0xbf more rest + 1 else 0

/-- The code point that the bytes of a character give. -/
def codePoint (first : UInt8) (more : List UInt8) : Nat :=
  more.foldl (fun n b => 64 * n + b.toNat % 64) (first.toNat % (1 <<< (6 - more.length)))

/-- What bytes start with: a character, or a flaw; with how many bytes it takes behind the
first. -/
inductive Start where
  | char (c : Char) (more : Nat)
  /-- The flaw is `open?` if the bytes end where the character might still go on. -/
  | flaw (more : Nat) (open? : Bool)

/-- What a byte and those behind it start with. -/
def start (b : UInt8) (rest : List UInt8) : Start :=
  if b < 0x80 then .char (Char.ofNat b.toNat) 0
  else
    match lead? b with
    | none => .flaw 0 false
    | some lead =>
      let n := following lead.low lead.high lead.more rest
      if n = lead.more then .char (Char.ofNat (codePoint b (rest.take n))) n
      else .flaw n (n = rest.length)

/-- The characters of bytes, where every flaw shows as one replacement character. -/
def chars : List UInt8 → List Char
  | [] => []
  | b :: rest =>
    match start b rest with
    | .char c more => c :: chars (rest.drop more)
    | .flaw more _ => Char.ofNat 0xfffd :: chars (rest.drop more)
termination_by bytes => bytes.length
decreasing_by all_goals (simp only [List.length_drop, List.length_cons]; omega)

/-- A flaw, with its index and its number of bytes; the bytes may end where it might go on. -/
structure Flaw where
  index : Nat
  size : Nat
  open? : Bool
deriving DecidableEq, Repr

/-- The first flaw of bytes that stand behind `index` others. -/
def flawFrom? (index : Nat) : List UInt8 → Option Flaw
  | [] => none
  | b :: rest =>
    match start b rest with
    | .char _ more => flawFrom? (index + 1 + more) (rest.drop more)
    | .flaw more open? => some ⟨index, more + 1, open?⟩
termination_by bytes => bytes.length
decreasing_by all_goals (simp only [List.length_drop, List.length_cons]; omega)

/-- The first flaw of bytes. -/
def flaw? (bytes : List UInt8) : Option Flaw := flawFrom? 0 bytes

/-- The wording of a flaw. -/
def Flaw.message (f : Flaw) : String :=
  if f.open? then s!"incomplete utf-8 byte sequence from index {f.index}"
  else s!"invalid utf-8 sequence of {f.size} bytes from index {f.index}"

/-- The text of bytes, if they have no flaw. -/
def text? (bytes : List UInt8) : Option String :=
  if (flaw? bytes).isNone then some (String.ofList (chars bytes)) else none

/-- The text of bytes, where every flaw shows as one replacement character. -/
def lossy (bytes : List UInt8) : String := String.ofList (chars bytes)

end TileScope.Text.Utf8
