import TileScope.Text.Composed
import TileScope.Url.Domain.Mapping.Table

/-!
# The plain form of a domain name

A domain name can be written in many ways: in capitals, in wide or styled letters, with characters
that show nothing, with marks apart from their letters. The plain form is one for all of them.
-/

namespace TileScope.Url.Domain

namespace Mapping

/-- What a character of a domain name stands for, unless no domain name has it. -/
def image? (c : Char) : Option (List Char) :=
  let n := c.toNat
  if n < 0x80 then some [c.toLower]
  else if Text.within ignoredBlocks n then some []
  else
    match expansions.find? (·.code = n), Text.image? runs n with
    | some expansion, _ => some (expansion.text.map Char.ofNat)
    | none, some m => some [Char.ofNat m]
    | none, none => if Text.within refusedBlocks n then none else some [c]

end Mapping

/-- The plain form of a domain name, unless it has a character that no domain name has. -/
def plain? (cs : List Char) : Option (List Char) :=
  (cs.mapM Mapping.image?).map fun images => Text.composed images.flatten

end TileScope.Url.Domain
