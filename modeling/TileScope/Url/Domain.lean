import TileScope.Text.Pieces
import TileScope.Url.Domain.Direction
import TileScope.Url.Domain.Joining
import TileScope.Url.Domain.Mapping
import TileScope.Url.Domain.Punycode

/-!
# Domain names

A domain name is labels with points between them. Its normal form is in ASCII: a label with other
characters is brought into plain form, checked, and written as `xn--` with its name in ASCII.

| written | normal form |
| --- | --- |
| `Example.COM` | `example.com` |
| `bücher.example` | `xn--bcher-kva.example` |
| `xn--bcher-kva` | `xn--bcher-kva` |
| `xn--a` | no domain name |
-/

namespace TileScope.Url

namespace Domain

/-- The character is in ASCII. -/
def isAscii (c : Char) : Bool := c.toNat < 0x80

/-- A character in ASCII that no domain name has. -/
def isForbidden (c : Char) : Bool :=
  c ≤ ' ' || c = '\x7f' || c ∈ ['%', '#', '/', ':', '<', '>', '?', '@', '[', '\\', ']', '^', '|']

/-- A label. -/
structure Label where
  /-- What it shows. -/
  shown : List Char
  /-- What it is in ASCII. -/
  ascii : List Char

/-- The most characters of a label that are written in ASCII. -/
def mostShown : Nat := 1000

/-- The most characters behind `xn--` that are read. -/
def mostCoded : Nat := 2000

/-- The label of characters in plain form. What is written in ASCII is in plain form too, and it is
not in ASCII without. -/
def label? (cs : List Char) : Option Label :=
  match cs with
  | 'x' :: 'n' :: '-' :: '-' :: code => do
    let shown ← if code.all isAscii ∧ code.length ≤ mostCoded then Punycode.decode? code else none
    if shown.all isAscii ∨ '.' ∈ shown ∨ plain? shown ≠ some shown then none
    else some ⟨shown, cs⟩
  | _ =>
    if cs.all isAscii then some ⟨cs, cs⟩
    else if mostShown < cs.length then none
    else some ⟨cs, 'x' :: 'n' :: '-' :: '-' :: Punycode.encode cs⟩

/-- The label has no forbidden character, starts with no mark, and has joiners only where they have
their places. -/
def Label.isSound (l : Label) : Bool :=
  !l.shown.any isForbidden && !l.shown.head?.any Text.isMark && joinersFit [] l.shown

/-- The labels have each one direction, if one of them runs from right to left. -/
def areSteady (labels : List Label) : Bool :=
  !labels.any (runsRight ·.shown) || labels.all fun l => isSteady (l.shown.map Direction.of)

/-- The normal form of a domain name. -/
def ofName? (name : List Char) : Option (List Char) := do
  let labels ← (Text.pieces '.' (← plain? name)).mapM label?
  if labels.all (·.isSound) ∧ areSteady labels then
    some (Text.joined '.' (labels.map (·.ascii)))
  else none

end Domain

end TileScope.Url
