import TileScope.Text.Block

/-!
# Directions of characters

The characters of a domain name that are not written from left to right, marks apart. The tables
hold the data of version 17 of the Unicode standard. A block may take in characters that no domain
name has.
-/

namespace TileScope.Url.Domain

open Text (Block)

/-- The letters that are written from right to left. -/
def rightBlocks : List Block :=
  [
    ⟨0x05be, 0x05f4⟩, ⟨0x0608, 0x0608⟩, ⟨0x060b, 0x060b⟩, ⟨0x060d, 0x060d⟩, ⟨0x061b, 0x064a⟩,
    ⟨0x066d, 0x06d5⟩, ⟨0x06e5, 0x06e6⟩, ⟨0x06ee, 0x06ef⟩, ⟨0x06fa, 0x07f5⟩, ⟨0x07fa, 0x08c9⟩,
    ⟨0xfbb2, 0xfbc2⟩, ⟨0xfe73, 0xfe73⟩, ⟨0x10800, 0x1091b⟩, ⟨0x10920, 0x10b35⟩, ⟨0x10b40, 0x10d23⟩,
    ⟨0x10d4a, 0x10d8f⟩, ⟨0x10e80, 0x10ff6⟩, ⟨0x1e800, 0x1ed3d⟩
  ]

/-- The digits that go with Arabic letters. -/
def arabicDigitBlocks : List Block :=
  [
    ⟨0x0660, 0x0669⟩, ⟨0x066b, 0x066c⟩, ⟨0x10d30, 0x10d49⟩, ⟨0x10e60, 0x10e7e⟩
  ]

/-- The other digits. -/
def digitBlocks : List Block :=
  [
    ⟨0x0030, 0x0039⟩, ⟨0x06f0, 0x06f9⟩, ⟨0x102e1, 0x102fb⟩
  ]

/-- The characters without a direction of their own. -/
def neutralBlocks : List Block :=
  [
    ⟨0x0021, 0x002e⟩, ⟨0x003b, 0x003d⟩, ⟨0x005f, 0x0060⟩, ⟨0x007b, 0x00d7⟩, ⟨0x00f7, 0x00f7⟩,
    ⟨0x02b9, 0x02ba⟩, ⟨0x02c2, 0x02cf⟩, ⟨0x02d2, 0x02ed⟩, ⟨0x02ef, 0x02ff⟩, ⟨0x0375, 0x0375⟩,
    ⟨0x03f6, 0x03f6⟩, ⟨0x058a, 0x058f⟩, ⟨0x0606, 0x0607⟩, ⟨0x0609, 0x060a⟩, ⟨0x060c, 0x060c⟩,
    ⟨0x060e, 0x060f⟩, ⟨0x066a, 0x066a⟩, ⟨0x06de, 0x06de⟩, ⟨0x06e9, 0x06e9⟩, ⟨0x07f6, 0x07f9⟩,
    ⟨0x09f2, 0x09f3⟩, ⟨0x09fb, 0x09fb⟩, ⟨0x0af1, 0x0af1⟩, ⟨0x0bf3, 0x0bfa⟩, ⟨0x0c78, 0x0c7e⟩,
    ⟨0x0e3f, 0x0e3f⟩, ⟨0x0f3a, 0x0f3d⟩, ⟨0x1390, 0x1399⟩, ⟨0x1400, 0x1400⟩, ⟨0x169b, 0x169c⟩,
    ⟨0x17db, 0x17db⟩, ⟨0x17f0, 0x180a⟩, ⟨0x1940, 0x1945⟩, ⟨0x19de, 0x19ff⟩, ⟨0x1b4e, 0x1b4f⟩,
    ⟨0x1b7f, 0x1b7f⟩, ⟨0x200c, 0x214d⟩, ⟨0x218a, 0x2335⟩, ⟨0x237b, 0x2394⟩, ⟨0x2396, 0x26ab⟩,
    ⟨0x26ad, 0x27ff⟩, ⟨0x2900, 0x2bff⟩, ⟨0x2ce5, 0x2cea⟩, ⟨0x2cf9, 0x2cff⟩, ⟨0x2e00, 0x3004⟩,
    ⟨0x3008, 0x3020⟩, ⟨0x3030, 0x3030⟩, ⟨0x3037, 0x3037⟩, ⟨0x303d, 0x303f⟩, ⟨0x30a0, 0x30a0⟩,
    ⟨0x30fb, 0x30fb⟩, ⟨0x31c0, 0x31e5⟩, ⟨0x4dc0, 0x4dff⟩, ⟨0xa490, 0xa4c6⟩, ⟨0xa60d, 0xa60f⟩,
    ⟨0xa673, 0xa67f⟩, ⟨0xa700, 0xa721⟩, ⟨0xa788, 0xa788⟩, ⟨0xa828, 0xa82b⟩, ⟨0xa838, 0xa839⟩,
    ⟨0xa874, 0xa877⟩, ⟨0xab6a, 0xab6b⟩, ⟨0xfbc3, 0xfe46⟩, ⟨0x10101, 0x10101⟩, ⟨0x10140, 0x1018c⟩,
    ⟨0x10190, 0x101a0⟩, ⟨0x1091f, 0x1091f⟩, ⟨0x10b39, 0x10b3f⟩, ⟨0x11052, 0x11065⟩,
    ⟨0x113d4, 0x113d8⟩, ⟨0x11660, 0x1166c⟩, ⟨0x11be1, 0x11be1⟩, ⟨0x11fd5, 0x11ff1⟩,
    ⟨0x16d6d, 0x16d6f⟩, ⟨0x16fe2, 0x16fe2⟩, ⟨0x1cc00, 0x1cef0⟩, ⟨0x1d1e9, 0x1d245⟩,
    ⟨0x1d300, 0x1d356⟩, ⟨0x1e2ff, 0x1e2ff⟩, ⟨0x1e5ff, 0x1e5ff⟩, ⟨0x1eef0, 0x1f12f⟩,
    ⟨0x1f16d, 0x1f16f⟩, ⟨0x1f1ad, 0x1f1ad⟩, ⟨0x1f260, 0x1fbfa⟩
  ]

/-- The marks without room of their own that are written from left to right. -/
def leftMarkBlocks : List Block :=
  [
    ⟨0x0cbf, 0x0cbf⟩, ⟨0x0cc6, 0x0cc6⟩, ⟨0x11a07, 0x11a08⟩, ⟨0x11c3f, 0x11c3f⟩
  ]

end TileScope.Url.Domain
