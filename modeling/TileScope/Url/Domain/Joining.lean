import TileScope.Text.Composed
import TileScope.Text.Mark
import TileScope.Url.Domain.Joining.Table

/-!
# Joiners in a label

Two characters that show nothing tell how the letters beside them join. A domain name has them only
where that makes a difference: behind the mark that takes the vowel off a letter, and for the one
that keeps letters apart also between letters that would join.
-/

namespace TileScope.Url.Domain

/-- Keeps the letters beside it apart. -/
def nonJoiner : Char := Char.ofNat 0x200c

/-- Joins the letters beside it. -/
def joiner : Char := Char.ofNat 0x200d

/-- The character does not count for joining. -/
def isPassed (c : Char) : Bool := Text.isNonspacing c || Text.within passedBlocks c.toNat

/-- The letter joins the one behind it. -/
def joinsBehind (c : Char) : Bool :=
  Text.within bothSidesBlocks c.toNat || Text.within behindOnlyBlocks c.toNat

/-- The letter joins the one before it. -/
def joinsBefore (c : Char) : Bool :=
  Text.within bothSidesBlocks c.toNat || Text.within beforeOnlyBlocks c.toNat

/-- The rank of the marks that take the vowel off a letter. -/
def vowelKillerRank : Nat := 9

/-- A joiner has its place between the characters in front, nearest first, and those behind. -/
def hasPlace (c : Char) (before after : List Char) : Bool :=
  before.head?.any (Text.Composed.rank · = vowelKillerRank)
    || (c = nonJoiner && (before.dropWhile isPassed).head?.any joinsBehind
      && (after.dropWhile isPassed).head?.any joinsBefore)

/-- The joiners among characters have their places, with others in front, nearest first. -/
def joinersFit (before : List Char) : List Char → Bool
  | [] => true
  | c :: after =>
    ((c ≠ nonJoiner && c ≠ joiner) || hasPlace c before after) && joinersFit (c :: before) after

end TileScope.Url.Domain
