import TileScope.Text.Mark
import TileScope.Url.Domain.Direction.Table

/-!
# The direction of a label

Hebrew and Arabic letters are written from right to left, others from left to right. In a domain
name with the former, every label has one direction, which its first character gives, so that no
label shows next to the wrong one.

| first character | others | last, marks apart |
| --- | --- | --- |
| left to right | left to right, digits, neutral, marks | left to right, digit |
| right to left | right to left, digits of one kind, neutral, marks | right to left, digit |
-/

namespace TileScope.Url.Domain

/-- The direction of a character. -/
inductive Direction where
  | left
  | right
  | digit
  | arabicDigit
  | neutral
  | mark
deriving DecidableEq, Repr

/-- The direction of a character of a domain name. -/
def Direction.of (c : Char) : Direction :=
  let n := c.toNat
  if Text.isNonspacing c then if Text.within leftMarkBlocks n then left else mark
  else if Text.within rightBlocks n then right
  else if Text.within digitBlocks n then digit
  else if Text.within arabicDigitBlocks n then arabicDigit
  else if Text.within neutralBlocks n then neutral
  else left

/-- The label has characters that run from right to left. -/
def runsRight (cs : List Char) : Bool :=
  cs.any fun c => Direction.of c ∈ [.right, .arabicDigit]

/-- The directions of a label go together. -/
def isSteady : List Direction → Bool
  | [] => true
  | first :: rest =>
    let last := ((first :: rest).reverse.find? (· ≠ .mark)).getD first
    match first with
    | .left => rest.all (· ∈ [.left, .digit, .neutral, .mark]) && last ∈ [.left, .digit]
    | .right =>
      rest.all (· ∈ [.right, .digit, .arabicDigit, .neutral, .mark])
        && last ∈ [.right, .digit, .arabicDigit] && !(.digit ∈ rest && .arabicDigit ∈ rest)
    | _ => false

end TileScope.Url.Domain
