import TileScope.Text.Casing.Table

/-!
# Lower case

The full lower-case form of a text: every character is replaced by its lower-case mapping, which
for `İ` (U+0130) is two characters, and a capital sigma becomes a final sigma at the end of a word
and a plain sigma elsewhere. A sigma is at the end of a word when the nearest character before it
that is not skipped over has case, and the nearest such character after it has none.
-/

namespace TileScope.Text

namespace Casing

/-- The character has case and is not skipped over. -/
def isCased (c : Char) : Bool := within casedBlocks c.toNat

/-- The character is skipped over when a cased neighbour is looked for. -/
def isIgnorable (c : Char) : Bool := within ignorableBlocks c.toNat

/-- Whether the first character that is not skipped over has case. -/
def startsCased (cs : List Char) : Bool :=
  match cs.dropWhile isIgnorable with
  | [] => false
  | c :: _ => isCased c

end Casing

open Casing

/-- The lower-case form of one character on its own. -/
def lowerOne (c : Char) : List Char :=
  if c.toNat < 0x80 then [c.toLower]
  else if c.toNat = 0x130 then ['i', Char.ofNat 0x307]
  else [Char.ofNat ((image? lowerRuns c.toNat).getD c.toNat)]

/-- The lower-case form of `rest`, where `before` are the characters in front of it, nearest
first. -/
def lowerAfter (before : List Char) : List Char → List Char
  | [] => []
  | c :: rest =>
    (if c = 'Σ' then [if startsCased before && !startsCased rest then 'ς' else 'σ']
      else lowerOne c) ++ lowerAfter (c :: before) rest

/-- The full lower-case form of a text. -/
def toLower (s : String) : String := String.ofList (lowerAfter [] s.toList)

end TileScope.Text
