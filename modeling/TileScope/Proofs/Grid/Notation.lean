import TileScope.Grid.Archive
import TileScope.Grid.Notation
import TileScope.Proofs.Text.Pieces

/-!
# One key, one name

No two tiles share a row of an archive (`TileKey.archiveRow_injective`) or a written form
(`TileKey.render_injective`). The first holds because the flip of a row at a zoom is its own
inverse; the second because decimal digits are no slashes, so the pieces between the slashes are the
three numbers again (`TileKey.pieces_render`).
-/

namespace TileScope

namespace TileKey

/-- A key is rendered as three numbers with slashes between them. -/
theorem toList_render (k : TileKey) : k.render.toList = Nat.toDigits 10 k.zoom.toNat ++
    '/' :: (Nat.toDigits 10 k.x.toNat ++ '/' :: Nat.toDigits 10 k.y.toNat) := by
  have hslash : (toString "/").toList = ['/'] := by decide
  simp [render, String.toList_append, hslash]

/-- The written form in pieces: the digits of the three numbers. -/
theorem pieces_render (k : TileKey) : Text.pieces '/' k.render.toList =
    [Nat.toDigits 10 k.zoom.toNat, Nat.toDigits 10 k.x.toNat, Nat.toDigits 10 k.y.toNat] := by
  rw [toList_render, Text.pieces_append (Text.notMem_digits (by decide) _),
    Text.pieces_append (Text.notMem_digits (by decide) _),
    Text.pieces_of_not_mem (Text.notMem_digits (by decide) _)]

/-- **Different keys are written differently.** -/
theorem render_injective : Function.Injective render := by
  intro a b h
  have hpieces := a.pieces_render.symm.trans ((congrArg (fun s => Text.pieces '/' s.toList) h).trans
    b.pieces_render)
  simp only [List.cons.injEq, and_true] at hpieces
  obtain ⟨hz, hx, hy⟩ := hpieces
  exact ext (UInt8.toNat_inj.1 (Text.digits_injective hz))
    (UInt32.toNat_inj.1 (Text.digits_injective hx)) (UInt32.toNat_inj.1 (Text.digits_injective hy))

/-- **Different keys have different rows in an archive.** -/
theorem archiveRow_injective : Function.Injective archiveRow := by
  intro a b h
  have hz : a.zoom = b.zoom := congrArg ArchiveRow.zoom h
  have hx : a.x = b.x := congrArg ArchiveRow.column h
  have hrow : maxIndex a.zoom - a.y = maxIndex b.zoom - b.y := congrArg ArchiveRow.row h
  have hya := UInt32.le_iff_toNat_le.1 a.y_le
  have hyb := UInt32.le_iff_toNat_le.1 b.y_le
  have hnat := congrArg UInt32.toNat hrow
  rw [UInt32.toNat_sub_of_le _ _ a.y_le, UInt32.toNat_sub_of_le _ _ b.y_le] at hnat
  rw [hz] at hnat hya
  exact ext hz hx (UInt32.toNat_inj.1 (by omega))

end TileKey

end TileScope
