import TileScope.Text.Digit
import TileScope.Text.Utf8

/-!
# Bytes behind percent signs

In an address a percent sign and two hexadecimal digits stand for a byte. A percent sign without
two digits stands for itself.
-/

namespace TileScope.Text.Percent

/-- The bytes that a part of an address stands for. -/
def decode : List UInt8 → List UInt8
  | 0x25 :: a :: b :: rest =>
    match digitValue? (Char.ofNat a.toNat), digitValue? (Char.ofNat b.toNat) with
    | some high, some low => (16 * high + low).toUInt8 :: decode rest
    | _, _ => 0x25 :: decode (a :: b :: rest)
  | b :: rest => b :: decode rest
  | [] => []

/-- The text that a part of an address stands for, if its bytes are one. -/
def text? (s : String) : Option String := Utf8.text? (decode s.toUTF8.toList)

/-- A byte as a percent sign and two digits. -/
def ofByte (b : UInt8) : List Char :=
  ['%', (hexDigit (b.toNat / 16)).toUpper, (hexDigit (b.toNat % 16)).toUpper]

/-- Characters with the bytes of those of a kind behind percent signs. -/
def encode (p : Char → Bool) (cs : List Char) : List Char :=
  cs.flatMap fun c => if p c then (String.utf8EncodeChar c).flatMap ofByte else [c]

end TileScope.Text.Percent
