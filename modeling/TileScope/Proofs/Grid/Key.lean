import Mathlib
import TileScope.Grid.Key

/-!
# Keys by their numbers

What is on the grid is said with numbers that have no bound: a zoom of at most 30, and a column and
a row below `2^zoom` (`OnGrid`). These are the numbers that have a key (`TileKey.exists_make?_iff`),
and a key has no other numbers (`TileKey.make?_eq_ok_iff`). Keys are ordered by the three numbers,
one after the other (`TileKey.compare_eq_lt_iff`).
-/

namespace TileScope

/-- The grid of the zoom has the column and the row. -/
structure OnGrid (zoom : UInt8) (x y : UInt32) : Prop where
  zoom_le : zoom.toNat ≤ 30
  x_lt : x.toNat < 2 ^ zoom.toNat
  y_lt : y.toNat < 2 ^ zoom.toNat

/-- The largest zoom is 30. -/
theorem le_maxZoom_iff {zoom : UInt8} : zoom ≤ maxZoom ↔ zoom.toNat ≤ 30 := UInt8.le_iff_toNat_le

/-- The largest index is one below the number of tiles on an axis. -/
theorem maxIndex_add_one {zoom : UInt8} (h : zoom.toNat ≤ 30) :
    (maxIndex zoom).toNat + 1 = 2 ^ zoom.toNat := by
  rw [maxIndex_toNat (le_maxZoom_iff.2 h), Nat.one_shiftLeft]
  exact Nat.sub_add_cancel Nat.one_le_two_pow

/-- The indices at a zoom are those below the power of two. -/
theorem le_maxIndex_iff {zoom : UInt8} {i : UInt32} (h : zoom.toNat ≤ 30) :
    i ≤ maxIndex zoom ↔ i.toNat < 2 ^ zoom.toNat := by
  rw [UInt32.le_iff_toNat_le, ← maxIndex_add_one h, Nat.lt_succ_iff]

namespace TileKey

variable {zoom : UInt8} {x y : UInt32} {k : TileKey}

/-- A key is on the grid. -/
theorem onGrid (k : TileKey) : OnGrid k.zoom k.x k.y :=
  have hzoom := le_maxZoom_iff.1 k.zoom_le
  ⟨hzoom, (le_maxIndex_iff hzoom).1 k.x_le, (le_maxIndex_iff hzoom).1 k.y_le⟩

/-- A key is made from its own numbers and no others. -/
theorem make?_eq_ok_iff : make? zoom x y = .ok k ↔ k.zoom = zoom ∧ k.x = x ∧ k.y = y := by
  constructor
  · intro h
    rw [make?] at h
    split at h
    · split at h
      · cases h
        exact ⟨rfl, rfl, rfl⟩
      · cases h
    · cases h
  · rintro ⟨rfl, rfl, rfl⟩
    exact k.make?_self

/-- The numbers that make a key are those on the grid. -/
theorem exists_make?_iff : (∃ k, make? zoom x y = .ok k) ↔ OnGrid zoom x y := by
  constructor
  · rintro ⟨k, hk⟩
    obtain ⟨rfl, rfl, rfl⟩ := make?_eq_ok_iff.1 hk
    exact k.onGrid
  · intro h
    exact ⟨⟨zoom, x, y, le_maxZoom_iff.2 h.zoom_le, (le_maxIndex_iff h.zoom_le).2 h.x_lt,
      (le_maxIndex_iff h.zoom_le).2 h.y_lt⟩, make?_eq_ok_iff.2 ⟨rfl, rfl, rfl⟩⟩

/-- The zoom is blamed first; a column or a row off the grid is blamed together with the other. -/
theorem make?_eq_error_iff {e : AddressError} : make? zoom x y = .error e ↔
    30 < zoom.toNat ∧ e = .zoom zoom ∨
      zoom.toNat ≤ 30 ∧ ¬(x.toNat < 2 ^ zoom.toNat ∧ y.toNat < 2 ^ zoom.toNat) ∧
        e = .offGrid zoom x y := by
  rw [make?]
  by_cases hzoom : zoom.toNat ≤ 30
  · rw [dif_pos (le_maxZoom_iff.2 hzoom)]
    simp only [le_maxIndex_iff hzoom]
    split
    · next hgrid => simp [hgrid, hzoom]
    · next hgrid => simp [hgrid, hzoom, eq_comm]
  · rw [dif_neg (mt le_maxZoom_iff.1 hzoom)]
    simp [hzoom, Nat.lt_of_not_le hzoom, eq_comm]

/-- By zoom, then by column, then by row. -/
def Before (a b : TileKey) : Prop :=
  a.zoom.toNat < b.zoom.toNat ∨ a.zoom = b.zoom ∧
    (a.x.toNat < b.x.toNat ∨ a.x = b.x ∧ a.y.toNat < b.y.toNat)

/-- Keys are compared by zoom, then column, then row. -/
theorem compare_eq_lt_iff {a b : TileKey} : compare a b = .lt ↔ a.Before b := by
  show compareLex (compareOn TileKey.zoom)
    (compareLex (compareOn TileKey.x) (compareOn TileKey.y)) a b = .lt ↔ _
  simp only [compareLex, compareOn, Ordering.then_eq_lt, Std.compare_eq_lt, Std.compare_eq_iff_eq,
    UInt8.lt_iff_toNat_lt, UInt32.lt_iff_toNat_lt, Before]

end TileKey

end TileScope
