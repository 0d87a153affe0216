import TileScope.Text.Digit
import TileScope.Text.Pieces

/-!
# Hosts of 32 bits

A host whose last part is a number is a number of 32 bits. Of one to four parts, the last fills all
places that the others leave. The normal form has four parts in decimal digits.

| written | normal form |
| --- | --- |
| `127.1` | `127.0.0.1` |
| `0x7f.0.0.1` | `127.0.0.1` |
| `1.2.3.4.5` | no host |
-/

namespace TileScope.Url.Ipv4

/-- A part of a host: with `0x` in front hexadecimal, with `0` in front octal. -/
def part? : List Char → Option Nat
  | [] => none
  | '0' :: 'x' :: digits => Text.numberIn? 16 digits
  | '0' :: digits => Text.numberIn? 8 digits
  | digits => Text.numberIn? 10 digits

/-- The parts of a host between its points; a point at the end does not count. -/
def parts (cs : List Char) : List (List Char) :=
  let parts := Text.pieces '.' cs
  if 1 < parts.length ∧ parts.getLast? = some [] then parts.dropLast else parts

/-- The last part is a number. -/
def endsInNumber (cs : List Char) : Bool :=
  match (parts cs).getLast? with
  | none => false
  | some part => (part ≠ [] && part.all Char.isDigit) || (part? part).isSome

/-- The number that the parts of a host come to. -/
def value? (parts : List Nat) : Option UInt32 :=
  match parts.reverse with
  | [] => none
  | last :: before =>
    if 4 < parts.length ∨ before.any (255 < ·) ∨ Nat.pow 256 (4 - before.length) ≤ last then none
    else
      let front := before.reverse.foldl (fun n part => 256 * n + part) 0
      some (front * Nat.pow 256 (4 - before.length) + last).toUInt32

/-- The number that a host in lower case comes to. -/
def ofChars? (cs : List Char) : Option UInt32 := ((parts cs).mapM part?).bind value?

/-- The normal form. -/
def render (n : UInt32) : String :=
  s!"{n >>> 24}.{(n >>> 16) % 256}.{(n >>> 8) % 256}.{n % 256}"

end TileScope.Url.Ipv4
