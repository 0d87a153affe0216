import TileScope.Grid.Window
import TileScope.Proofs.Grid.Key
import TileScope.Proofs.Scan.Outcome

/-!
# The window is the clipped square

The window around a tile has the tiles of its zoom that are at most one column and one row away
(`TileKey.mem_window`), so it is clipped at the edges of the grid, and being in the window of each
other is mutual. On each axis two or three indices are left of the three, one at zoom 0
(`length_around`), and the window has a tile for each column and row that are left.
-/

namespace TileScope

/-! ## One axis -/

section Axis

variable {zoom : UInt8} {last i j : UInt32}

/-- One less than a number above zero does not wrap around. -/
theorem toNat_sub_one (h : 0 < i) : (i - 1).toNat + 1 = i.toNat := by
  have hi : 1 ≤ i.toNat := UInt32.lt_iff_toNat_lt.1 h
  have hone : (1 : UInt32).toNat = 1 := rfl
  rw [UInt32.toNat_sub_of_le _ _ (UInt32.le_iff_toNat_le.2 (hone ▸ hi)), hone]
  exact Nat.sub_add_cancel hi

/-- One more than a number below another does not wrap around. -/
theorem toNat_add_one (h : i < last) : (i + 1).toNat = i.toNat + 1 := by
  have hi := UInt32.lt_iff_toNat_lt.1 h
  rw [UInt32.toNat_add]
  exact Nat.mod_eq_of_lt (Nat.lt_of_le_of_lt hi last.toNat_lt)

/-- Around an index are the one before, itself and the one after, as far as they exist. -/
theorem mem_around_cases :
    j ∈ around last i ↔ 0 < i ∧ j = i - 1 ∨ j = i ∨ i < last ∧ j = i + 1 := by
  simp only [around, List.mem_append, List.mem_cons]
  by_cases h0 : 0 < i <;> by_cases h1 : i < last <;> simp [h0, h1]

/-- Around an index are those at a distance of one at most. -/
theorem mem_around (hi : i ≤ last) :
    j ∈ around last i ↔ j ≤ last ∧ |(j.toNat : Int) - i.toNat| ≤ 1 := by
  rw [mem_around_cases, UInt32.le_iff_toNat_le, abs_le]
  rw [UInt32.le_iff_toNat_le] at hi
  constructor
  · rintro (⟨h, rfl⟩ | rfl | ⟨h, rfl⟩)
    · have := toNat_sub_one h
      omega
    · omega
    · have := toNat_add_one h
      have := UInt32.lt_iff_toNat_lt.1 h
      omega
  · rintro ⟨hj, hlow, hhigh⟩
    rcases Nat.lt_trichotomy j.toNat i.toNat with hlt | heq | hgt
    · have h : 0 < i := UInt32.lt_iff_toNat_lt.2 (by show 0 < i.toNat; omega)
      have := toNat_sub_one h
      exact .inl ⟨h, UInt32.toNat_inj.1 (by omega)⟩
    · exact .inr (.inl (UInt32.toNat_inj.1 heq))
    · have h : i < last := UInt32.lt_iff_toNat_lt.2 (by omega)
      have := toNat_add_one h
      exact .inr (.inr ⟨h, UInt32.toNat_inj.1 (by omega)⟩)

/-- The indices around one ascend. -/
theorem pairwise_around (last i : UInt32) : (around last i).Pairwise (· < ·) := by
  have hbefore (h : 0 < i) : i - 1 < i := by
    rw [UInt32.lt_iff_toNat_lt, ← toNat_sub_one h]
    exact Nat.lt_succ_self _
  have hafter (h : i < last) : i < i + 1 := by
    rw [UInt32.lt_iff_toNat_lt, toNat_add_one h]
    exact Nat.lt_succ_self _
  rw [around]
  split
  · next h0 =>
    split
    · next h1 => simp [hbefore h0, hafter h1, UInt32.lt_trans (hbefore h0) (hafter h1)]
    · simp [hbefore h0]
  · split
    · next h1 => simp [hafter h1]
    · simp

/-- How many of an index and the two beside it lie on an axis. -/
def indicesLeft (zoom : UInt8) (i : UInt32) : Nat :=
  ([(i.toNat : Int) - 1, i.toNat, i.toNat + 1] : List Int).countP fun j =>
    0 ≤ j ∧ j < 2 ^ zoom.toNat

/-- There are as many indices around one as the edges leave. -/
theorem length_around (hzoom : zoom.toNat ≤ 30) (hi : i ≤ maxIndex zoom) :
    (around (maxIndex zoom) i).length = indicesLeft zoom i := by
  have hlast : ((maxIndex zoom).toNat : Int) + 1 = 2 ^ zoom.toNat := by
    exact_mod_cast maxIndex_add_one hzoom
  rw [UInt32.le_iff_toNat_le] at hi
  have hbefore : (0 ≤ (i.toNat : Int) - 1 ∧ (i.toNat : Int) - 1 < 2 ^ zoom.toNat) ↔ 0 < i := by
    rw [UInt32.lt_iff_toNat_lt, UInt32.toNat_zero, ← hlast]
    omega
  have hself : 0 ≤ (i.toNat : Int) ∧ (i.toNat : Int) < 2 ^ zoom.toNat := by omega
  have hafter : (0 ≤ (i.toNat : Int) + 1 ∧ (i.toNat : Int) + 1 < 2 ^ zoom.toNat) ↔
      i < maxIndex zoom := by
    rw [UInt32.lt_iff_toNat_lt, ← hlast]
    omega
  simp only [indicesLeft, around, List.countP_cons, List.countP_nil, hbefore, hself, hafter]
  by_cases h0 : 0 < i <;> by_cases h1 : i < maxIndex zoom <;> simp [h0, h1]

end Axis

namespace TileKey

variable {k j : TileKey}

/-- The tiles around, column by column. -/
def square (k : TileKey) : List TileKey :=
  (around (maxIndex k.zoom) k.x).flatMap fun x =>
    (around (maxIndex k.zoom) k.y).filterMap fun y => (make? k.zoom x y).toOption

/-- What three numbers make, if anything, is the key with them. -/
theorem toOption_make?_eq_some_iff {zoom : UInt8} {x y : UInt32} :
    (make? zoom x y).toOption = some k ↔ k.zoom = zoom ∧ k.x = x ∧ k.y = y := by
  rw [← make?_eq_ok_iff]
  cases make? zoom x y <;> simp [Except.toOption]

/-- The square has the keys whose column and row are both around those of the key. -/
theorem mem_square : j ∈ k.square ↔ j.zoom = k.zoom ∧ j.x ∈ around (maxIndex k.zoom) k.x ∧
    j.y ∈ around (maxIndex k.zoom) k.y := by
  simp only [square, List.mem_flatMap, List.mem_filterMap, toOption_make?_eq_some_iff]
  constructor
  · rintro ⟨x, hx, y, hy, hzoom, rfl, rfl⟩
    exact ⟨hzoom, hx, hy⟩
  · rintro ⟨hzoom, hx, hy⟩
    exact ⟨j.x, hx, j.y, hy, hzoom, rfl, rfl⟩

/-- The keys of the square stand in their order. -/
theorem pairwise_square (k : TileKey) : k.square.Pairwise Before := by
  rw [square, List.pairwise_flatMap]
  -- Tiles of one column are apart by their rows, those of two by the columns.
  constructor
  · intro x _
    refine (pairwise_around _ _).filterMap _ fun y y' hlt a ha b hb => ?_
    obtain ⟨hza, hxa, rfl⟩ := toOption_make?_eq_some_iff.1 ha
    obtain ⟨hzb, hxb, rfl⟩ := toOption_make?_eq_some_iff.1 hb
    exact .inr ⟨hza.trans hzb.symm, .inr ⟨hxa.trans hxb.symm, UInt32.lt_iff_toNat_lt.1 hlt⟩⟩
  · refine (pairwise_around _ _).imp fun hlt a ha b hb => ?_
    obtain ⟨y, -, ha⟩ := List.mem_filterMap.1 ha
    obtain ⟨y', -, hb⟩ := List.mem_filterMap.1 hb
    obtain ⟨hza, rfl, -⟩ := toOption_make?_eq_some_iff.1 ha
    obtain ⟨hzb, rfl, -⟩ := toOption_make?_eq_some_iff.1 hb
    exact .inr ⟨hza.trans hzb.symm, .inl (UInt32.lt_iff_toNat_lt.1 hlt)⟩

/-- The square has as many keys as both axes leave. -/
theorem length_square (k : TileKey) :
    k.square.length = indicesLeft k.zoom k.x * indicesLeft k.zoom k.y := by
  have hcolumn : ∀ x ∈ around (maxIndex k.zoom) k.x,
      ((around (maxIndex k.zoom) k.y).filterMap fun y => (make? k.zoom x y).toOption).length
        = indicesLeft k.zoom k.y := by
    intro x hx
    rw [← length_around k.onGrid.zoom_le k.y_le, List.length_filterMap_eq_countP,
      List.countP_eq_length]
    intro y hy
    have hgrid : OnGrid k.zoom x y := ⟨k.onGrid.zoom_le,
      (le_maxIndex_iff k.onGrid.zoom_le).1 ((mem_around k.x_le).1 hx).1,
      (le_maxIndex_iff k.onGrid.zoom_le).1 ((mem_around k.y_le).1 hy).1⟩
    obtain ⟨j, hj⟩ := exists_make?_iff.2 hgrid
    rw [hj]
    rfl
  rw [square, List.length_flatMap, List.map_congr_left hcolumn, List.map_const', List.sum_replicate,
    length_around k.onGrid.zoom_le k.x_le, smul_eq_mul]

/-- The window is the square, in order. -/
theorem toList_window (k : TileKey) : k.window.toList = k.square :=
  OrderedSet.toList_ofList (k.pairwise_square.imp compare_eq_lt_iff.2)

/-- The window has the keys at the zoom at a distance of one at most on both axes. -/
theorem mem_window : j ∈ k.window ↔ j.zoom = k.zoom ∧ |(j.x.toNat : Int) - k.x.toNat| ≤ 1 ∧
    |(j.y.toNat : Int) - k.y.toNat| ≤ 1 := by
  rw [OrderedSet.mem_def, toList_window, mem_square, mem_around k.x_le, mem_around k.y_le]
  refine and_congr_right fun hzoom => ?_
  rw [← hzoom, and_iff_right j.x_le, and_iff_right j.y_le]

/-- A key is in the window of each key in its own. -/
theorem mem_window_comm : j ∈ k.window ↔ k ∈ j.window := by
  rw [mem_window, mem_window, abs_sub_comm (j.x.toNat : Int), abs_sub_comm (j.y.toNat : Int),
    eq_comm]

end TileKey

/-! ## Requests -/

namespace ScanRequest

/-- The keys of a request ascend. -/
theorem pairwise_keys (r : ScanRequest) : r.keys.Pairwise fun a b => compare a b = .lt := by
  rw [keys]
  split
  · exact r.center.window.ascending
  · exact List.pairwise_singleton _ _

/-- With neighbors the keys of a request are those of the window. -/
theorem mem_keys_of_neighbors {r : ScanRequest} (h : r.includeNeighbors = true) {j : TileKey} :
    j ∈ r.keys ↔ j ∈ r.center.window := by
  rw [keys, if_pos h, OrderedSet.mem_def]

/-- The keys of a request are its center, and with neighbors those of the window. -/
theorem mem_keys_iff {r : ScanRequest} {j : TileKey} : j ∈ r.keys ↔ j = r.center ∨
    r.includeNeighbors = true ∧ j.zoom = r.center.zoom ∧
      |(j.x.toNat : Int) - r.center.x.toNat| ≤ 1 ∧ |(j.y.toNat : Int) - r.center.y.toNat| ≤ 1 := by
  by_cases h : r.includeNeighbors = true
  · have hcenter (hj : j = r.center) : j ∈ r.center.window :=
      hj ▸ TileKey.mem_window.2 ⟨rfl, by simp, by simp⟩
    rw [mem_keys_of_neighbors h, ← TileKey.mem_window, and_iff_right h, or_iff_right_of_imp hcenter]
  · rw [keys, if_neg h, List.mem_singleton, or_iff_left fun h' => h h'.1]

end ScanRequest

/-- A scan has an outcome for each key of its request. -/
theorem Store.keys_scanRequest (s : Store) (cancelled : Bool) (r : ScanRequest) :
    (s.scanRequest cancelled r).outcomes.keys = r.keys := by
  rw [scanRequest, scan, OrderedSet.keys_mapTo, OrderedSet.toList_ofList r.pairwise_keys]

/-- **The window is the clipped square.** It has just the tiles of the zoom that are at most one
column and one row away, the indices compared as numbers, so that no tile from the far side comes
in; the tile itself is one of them, there are as many as the columns times the rows that are left of
three and three, and of two tiles each is in the window of the other or neither is. A request with
neighbours lists the window by zoom, column and row, and the report has an outcome for just these
tiles. -/
theorem TileKey.window_exact (k : TileKey) :
    (∀ j, j ∈ k.window ↔ j.zoom = k.zoom ∧ |(j.x.toNat : Int) - k.x.toNat| ≤ 1 ∧
      |(j.y.toNat : Int) - k.y.toNat| ≤ 1) ∧
    k ∈ k.window ∧
    k.window.toList.length = indicesLeft k.zoom k.x * indicesLeft k.zoom k.y ∧
    (∀ j, j ∈ k.window ↔ k ∈ j.window) ∧
    ∀ query : Query,
      let r : ScanRequest := { center := k, query := query, includeNeighbors := true }
      (∀ j, j ∈ r.keys ↔ j ∈ k.window) ∧ r.keys.Pairwise Before ∧
      ∀ (s : Store) (cancelled : Bool), (s.scanRequest cancelled r).outcomes.keys = r.keys := by
  refine ⟨fun j => mem_window, mem_window.2 ⟨rfl, by simp, by simp⟩, ?_, fun j => mem_window_comm,
    fun query => ⟨fun j => ScanRequest.mem_keys_of_neighbors rfl,
      (ScanRequest.pairwise_keys _).imp compare_eq_lt_iff.1, fun s cancelled =>
        s.keys_scanRequest cancelled _⟩⟩
  rw [toList_window, length_square]

/-- In a corner of the highest zoom two columns and two rows are left, at zoom 0 one of each. -/
example : indicesLeft 30 0 = 2 ∧ indicesLeft 30 (maxIndex 30) = 2 ∧ indicesLeft 0 0 = 1 := by decide

end TileScope
