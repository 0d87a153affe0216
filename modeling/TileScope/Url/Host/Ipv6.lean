import TileScope.Text.Digit
import TileScope.Text.Pieces

/-!
# Hosts of 128 bits

A host of 128 bits is eight groups of 16 bits with colons between them, each of one to four
hexadecimal digits. Two colons without a group between them stand for groups of zeros, at least
one, and come once. The last two groups may be written as four decimal numbers with points.

| written | normal form |
| --- | --- |
| `2001:DB8::1` | `2001:db8::1` |
| `0:0:1:0:0:0:0:1` | `0:0:1::1` |
| `::ffff:127.0.0.1` | `::ffff:7f00:1` |
| `1:2:3` | no host |
-/

namespace TileScope.Url.Ipv6

/-- The groups of a host. -/
abbrev Groups := Vector UInt16 8

/-- A group in hexadecimal digits. -/
def group? (cs : List Char) : Option UInt16 :=
  if 1 ≤ cs.length ∧ cs.length ≤ 4 then (Text.numberIn? 16 cs).map (·.toUInt16) else none

/-- A number below 256 without zeros in front. -/
def decimal? (cs : List Char) : Option UInt16 :=
  if cs = [] ∨ (cs.head? = some '0' ∧ cs ≠ ['0']) then none
  else ((Text.numberIn? 10 cs).filter (· < 256)).map (·.toUInt16)

/-- Two groups as four decimal numbers with points. -/
def dotted? (cs : List Char) : Option (List UInt16) :=
  match (Text.pieces '.' cs).mapM decimal? with
  | some [a, b, c, d] => some [256 * a + b, 256 * c + d]
  | _ => none

/-- The groups of pieces between colons. The last piece may be two groups, at the end of a host. -/
def groups? (atEnd : Bool) : List (List Char) → Option (List UInt16)
  | [] => some []
  | [last] =>
    match group? last with
    | some g => some [g]
    | none => if atEnd then dotted? last else none
  | piece :: more => do return (← group? piece) :: (← groups? atEnd more)

/-- The groups of a stretch of a host, which may be empty. -/
def stretch? (atEnd : Bool) (cs : List Char) : Option (List UInt16) :=
  if cs = [] then some [] else groups? atEnd (Text.pieces ':' cs)

/-- Splits at the first two colons in a row. -/
def splitGap? : List Char → Option (List Char × List Char)
  | [] => none
  | ':' :: ':' :: rest => some ([], rest)
  | c :: rest => (splitGap? rest).map fun (front, back) => (c :: front, back)

/-- Eight groups. -/
def eight? (groups : List UInt16) : Option Groups :=
  if h : groups.length = 8 then some ⟨groups.toArray, by simp [h]⟩ else none

/-- Reads a host. -/
def ofChars? (cs : List Char) : Option Groups :=
  match splitGap? cs with
  | none => (stretch? true cs).bind eight?
  | some (front, back) => do
    let front ← stretch? false front
    let back ← stretch? true back
    if 7 < front.length + back.length then none
    else eight? (front ++ List.replicate (8 - front.length - back.length) 0 ++ back)

/-- How many groups are zero at the start. -/
def zeros (groups : List UInt16) : Nat := (groups.takeWhile (· = 0)).length

/-- Where the first of the longest rows of zeros starts. -/
def longestRow (groups : List UInt16) : Nat :=
  (List.range groups.length).foldl
    (fun best i => if zeros (groups.drop best) < zeros (groups.drop i) then i else best) 0

/-- Groups with colons between them. -/
def written (groups : List UInt16) : String :=
  String.intercalate ":" (groups.map fun g => String.ofList (Nat.toDigits 16 g.toNat))

/-- The normal form: two colons stand for the first of the longest rows of zeros, if it has two. -/
def render (g : Groups) : String :=
  let groups := g.toList
  let start := longestRow groups
  let length := zeros (groups.drop start)
  if length < 2 then written groups
  else written (groups.take start) ++ "::" ++ written (groups.drop (start + length))

end TileScope.Url.Ipv6
