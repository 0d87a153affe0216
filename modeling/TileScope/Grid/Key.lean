/-!
# Tile keys

The world at zoom `z` is a square grid of `2^z` by `2^z` tiles. A key names one of them by zoom,
column and row; columns go east, rows go south. A `TileKey` carries the proof that it lies on the
grid, so nothing that holds a key has to check it again.

`TileKey.make?` is the only check: the zoom first, then column and row together.
-/

namespace TileScope

/-- The highest zoom with tiles. -/
def maxZoom : UInt8 := 30

/-- Why an address names no tile. -/
inductive AddressError where
  /-- The zoom is above `maxZoom`. -/
  | zoom (zoom : UInt8)
  /-- The column or the row is off the grid of the zoom. -/
  | offGrid (zoom : UInt8) (x y : UInt32)
  /-- The text is not of the form `z/x/y`. -/
  | malformed (text : String)
deriving DecidableEq, Repr

/-- The wording of an address error. -/
def AddressError.message : AddressError → String
  | .zoom z => s!"Invalid zoom level: {z.toNat} (must be between 0 and {maxZoom.toNat})"
  | .offGrid z x y =>
    s!"Invalid tile coordinate {x.toNat}/{y.toNat} at zoom {z.toNat} (must be below 2^{z.toNat})"
  | .malformed text => s!"Invalid tile '{text}' (expected z/x/y)"

/-- The largest column and row at a zoom, all of whose bits up to the zoom are set. -/
def maxIndex (zoom : UInt8) : UInt32 := (((1 : UInt64) <<< zoom.toUInt64) - 1).toUInt32

/-- Up to the highest zoom the shift of the largest index does not overflow. -/
theorem maxIndex_toNat {zoom : UInt8} (h : zoom ≤ maxZoom) :
    (maxIndex zoom).toNat = (1 <<< zoom.toNat) - 1 := by
  rw [Nat.shiftLeft_eq, Nat.one_mul]
  have hz : zoom.toNat ≤ 30 := UInt8.le_iff_toNat_le.1 h
  have hpow : 2 ^ zoom.toNat ≤ 2 ^ 30 := Nat.pow_le_pow_right (by decide) hz
  have hpos : 0 < 2 ^ zoom.toNat := Nat.two_pow_pos _
  have hshift : ((1 : UInt64) <<< zoom.toUInt64).toNat = 2 ^ zoom.toNat := by
    have hmod : zoom.toNat % 64 = zoom.toNat := Nat.mod_eq_of_lt (by omega)
    rw [UInt64.toNat_shiftLeft, UInt8.toNat_toUInt64, hmod, Nat.shiftLeft_eq, UInt64.toNat_one,
      Nat.one_mul]
    exact Nat.mod_eq_of_lt (by omega)
  have hsub : (((1 : UInt64) <<< zoom.toUInt64) - 1).toNat = 2 ^ zoom.toNat - 1 := by
    rw [UInt64.toNat_sub_of_le _ _ (UInt64.le_iff_toNat_le.2 (by rw [hshift]; exact hpos)),
      hshift]
    rfl
  rw [maxIndex, UInt64.toNat_toUInt32, hsub]
  exact Nat.mod_eq_of_lt (by omega)

/-- A tile of the grid, by zoom, column and row. -/
structure TileKey where
  zoom : UInt8
  x : UInt32
  y : UInt32
  zoom_le : zoom ≤ maxZoom
  x_le : x ≤ maxIndex zoom
  y_le : y ≤ maxIndex zoom
deriving DecidableEq

namespace TileKey

instance : Repr TileKey :=
  ⟨fun k _ => s!"{k.zoom.toNat}/{k.x.toNat}/{k.y.toNat}"⟩

/-- Keys with the same zoom, column and row are the same. -/
theorem ext {a b : TileKey} (hz : a.zoom = b.zoom) (hx : a.x = b.x) (hy : a.y = b.y) : a = b := by
  cases a; cases b; cases hz; cases hx; cases hy; rfl

/-- The key at a zoom, column and row, if the grid has such a tile. -/
def make? (zoom : UInt8) (x y : UInt32) : Except AddressError TileKey :=
  if hz : zoom ≤ maxZoom then
    if h : x ≤ maxIndex zoom ∧ y ≤ maxIndex zoom then .ok ⟨zoom, x, y, hz, h.1, h.2⟩
    else .error (.offGrid zoom x y)
  else .error (.zoom zoom)

/-- Keys are ordered by zoom, then column, then row. -/
instance : Ord TileKey :=
  ⟨compareLex (compareOn zoom) (compareLex (compareOn x) (compareOn y))⟩

instance : Std.TransOrd TileKey :=
  inferInstanceAs
    (Std.TransCmp (compareLex (compareOn zoom) (compareLex (compareOn x) (compareOn y))))

instance : Std.LawfulEqOrd TileKey where
  compare_self := Std.ReflCmp.compare_self
  eq_of_compare {a b} h := by
    replace h : compareLex (compareOn zoom) (compareLex (compareOn x) (compareOn y)) a b = .eq := h
    simp only [compareLex, Ordering.then_eq_eq, compareOn] at h
    exact ext (Std.LawfulEqCmp.eq_of_compare h.1) (Std.LawfulEqCmp.eq_of_compare h.2.1)
      (Std.LawfulEqCmp.eq_of_compare h.2.2)

/-- A key is made again from its own parts. -/
theorem make?_self (k : TileKey) : make? k.zoom k.x k.y = .ok k := by
  simp [make?, k.zoom_le, k.x_le, k.y_le]

end TileKey

end TileScope
