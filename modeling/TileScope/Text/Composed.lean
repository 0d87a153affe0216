import TileScope.Text.Composed.Table

/-!
# The composed form of a text

A letter with marks can be written as one character or as several. In the composed form every
character takes in the parts behind it as far as there is a character for the whole. Three steps
lead there.

1. Every composed character falls into its parts.
2. Marks that stand in a row are put in the order of their ranks. Those of one rank stay as they
   are, since their order shows.
3. Every base takes in what follows, but not past a mark of the same or a higher rank.

A syllable of Korean writing is composed by rule, of two or three parts. A character whose parts
never compose it again is taken as it stands.
-/

namespace TileScope.Text

namespace Composed

/-- The first character that joins one before it. -/
def firstJoining : Nat := 0x300

/-- The rank of a character; only marks have another one than zero. -/
def rank (c : Char) : Nat :=
  if c.toNat < firstJoining then 0
  else
    match rankBlocks.find? fun b => b.first ≤ c.toNat && c.toNat ≤ b.last with
    | some b => b.rank
    | none => 0

/-- The first of the 19 initial parts of Korean syllables. -/
def initialPart : Nat := 0x1100

/-- The first of the 21 middle parts of Korean syllables. -/
def middlePart : Nat := 0x1161

/-- What stands for no final part, in front of the 27 final parts of Korean syllables. -/
def finalPart : Nat := 0x11a7

/-- The first Korean syllable. -/
def syllable : Nat := 0xac00

/-- The parts of a character. -/
def parts (c : Char) : List Char :=
  let n := c.toNat
  if syllable ≤ n ∧ n < syllable + 19 * 21 * 28 then
    let i := n - syllable
    (if i % 28 = 0 then [initialPart + i / 588, middlePart + i / 28 % 21]
      else [initialPart + i / 588, middlePart + i / 28 % 21, finalPart + i % 28]).map Char.ofNat
  else if n < 0x80 then [c]
  else
    match composites.find? (·.code = n) with
    | some composite => composite.parts.map Char.ofNat
    | none => [c]

/-- The Korean syllable of parts. -/
def syllable? : List Nat → Option Nat
  | i :: m :: final =>
    if initialPart ≤ i ∧ i < initialPart + 19 ∧ middlePart ≤ m ∧ m < middlePart + 21 then
      let opened := syllable + ((i - initialPart) * 21 + (m - middlePart)) * 28
      match final with
      | [] => some opened
      | [f] => if finalPart < f ∧ f < finalPart + 28 then some (opened + (f - finalPart)) else none
      | _ => none
    else none
  | _ => none

/-- The character that parts compose. -/
def whole? (cs : List Char) : Option Char :=
  let codes := cs.map Char.toNat
  ((syllable? codes).orElse fun _ => (composites.find? (·.parts = codes)).map (·.code)).map
    Char.ofNat

/-- Puts a character in front of others, behind the marks of a lower rank if it is a mark. -/
def place (c : Char) : List Char → List Char
  | [] => [c]
  | d :: rest => if 0 < rank d ∧ rank d < rank c then d :: place c rest else c :: d :: rest

/-- The base with the parts that it has taken in, and what it has not taken in, nearest last. -/
def settled (base kept : List Char) : List Char :=
  (match base with
    | [c] => [c]
    | _ => ((whole? base).map ([·])).getD base) ++ kept.reverse

/-- Lets a base take in what follows, and every base behind it. `kept` is what stands behind the
base already, nearest first. -/
def takeIn (base kept : List Char) : List Char → List Char
  | [] => settled base kept
  | c :: rest =>
    let blocked := match kept with
      | [] => false
      | k :: _ => rank c ≤ rank k
    let joins := !blocked && firstJoining ≤ c.toNat && (whole? (base ++ [c])).isSome
    if joins then takeIn (base ++ [c]) kept rest
    else if rank c = 0 then settled base kept ++ takeIn [c] [] rest
    else takeIn base (c :: kept) rest

end Composed

open Composed

/-- The composed form of a text. -/
def composed (cs : List Char) : List Char :=
  match (cs.flatMap parts).foldr place [] with
  | [] => []
  | c :: rest => takeIn [c] [] rest

end TileScope.Text
