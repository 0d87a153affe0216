import TileScope.Grid.Archive
import TileScope.Proofs.Grid.Key

/-!
# Rows from the south edge and back

A key and its address in an archive determine each other: every address on the grid is that of one
key, and leads back to it (`ArchiveRow.key?_eq_ok_iff`, `addressing_exact`). An address off the grid
is refused, for its zoom, else for its row, else for its column (`ArchiveRow.Blamed`).

Words wrap around silently where they overflow. That none does here hangs on checks that are made
before, so the functions are said once more, step by step, in arithmetic that stops instead
(`Checked`). They never stop, whatever the zoom, the column and the row, and come to the same.
-/

namespace TileScope

/-! ## Arithmetic that stops -/

namespace Checked

/-- One, shifted to the left by fewer places than the word has. -/
def shiftOne (places : UInt8) : Option UInt64 :=
  if places.toNat < 64 then some (1 <<< places.toUInt64) else none

/-- A difference that is not below zero. -/
def sub (a b : UInt32) : Option UInt32 := if b ≤ a then some (a - b) else none

/-- The number before, if there is one. -/
def pred (n : UInt64) : Option UInt64 := if 1 ≤ n then some (n - 1) else none

/-- A word cut down to half, of which no digit gets lost. -/
def narrow (n : UInt64) : Option UInt32 :=
  if n.toNat < UInt32.size then some n.toUInt32 else none

/-- What a step comes to: nothing if the arithmetic stops, else a value or an error. -/
abbrev Step (α : Type) := ExceptT AddressError Option α

/-- The number of tiles on an axis. -/
def tilesOnAxis (zoom : UInt8) : Step UInt64 :=
  if maxZoom < zoom then throw (.zoom zoom) else ExceptT.lift (shiftOne zoom)

/-- The largest column and row at a zoom that was checked before. -/
def lastOnAxis (zoom : UInt8) : Option UInt32 := do
  let count ← shiftOne zoom
  let last ← pred count
  narrow last

/-- A zoom, a column and a row, if the grid has such a tile. -/
def key (zoom : UInt8) (x y : UInt32) : Step (UInt8 × UInt32 × UInt32) := do
  let count ← tilesOnAxis zoom
  if count ≤ x.toUInt64 ∨ count ≤ y.toUInt64 then throw (.offGrid zoom x y) else return (zoom, x, y)

/-- The archive address of a zoom, a column and a row that were checked before. -/
def archiveRow (zoom : UInt8) (x y : UInt32) : Option ArchiveRow := do
  let last ← lastOnAxis zoom
  let row ← sub last y
  return ⟨zoom, x, row⟩

/-- The archive address of a zoom, a column and a row. -/
def toArchive (zoom : UInt8) (x y : UInt32) : Step ArchiveRow := do
  let (zoom, x, y) ← key zoom x y
  archiveRow zoom x y

/-- The zoom, column and row of an archive address. -/
def ofArchive (a : ArchiveRow) : Step (UInt8 × UInt32 × UInt32) := do
  let _ ← tilesOnAxis a.zoom
  let last ← lastOnAxis a.zoom
  if last < a.row then throw (.offGrid a.zoom a.column a.row)
  else
    let y ← sub last a.row
    key a.zoom a.column y

end Checked

/-- The zoom, column and row of a key. -/
def TileKey.numbers (k : TileKey) : UInt8 × UInt32 × UInt32 := (k.zoom, k.x, k.y)

namespace Checked

variable {zoom : UInt8} {x y : UInt32}

/-- Up to zoom 30 the shift does not overflow and gives a power of two. -/
theorem exists_shiftOne (h : zoom.toNat ≤ 30) :
    ∃ count, shiftOne zoom = some count ∧ count.toNat = 2 ^ zoom.toNat := by
  refine ⟨_, if_pos (by omega), ?_⟩
  have hpow : 2 ^ zoom.toNat ≤ 2 ^ 30 := Nat.pow_le_pow_right (by decide) h
  rw [UInt64.toNat_shiftLeft, UInt8.toNat_toUInt64, UInt64.toNat_one,
    Nat.mod_eq_of_lt (show zoom.toNat < 64 by omega), Nat.one_shiftLeft]
  exact Nat.mod_eq_of_lt (by omega)

/-- Up to zoom 30 no step on the way to the largest index stops. -/
theorem lastOnAxis_eq (h : zoom.toNat ≤ 30) : lastOnAxis zoom = some (maxIndex zoom) := by
  obtain ⟨count, hcount, hpow⟩ := exists_shiftOne h
  have hle : 2 ^ zoom.toNat ≤ 2 ^ 30 := Nat.pow_le_pow_right (by decide) h
  have hone : (1 : UInt64) ≤ count := by
    rw [UInt64.le_iff_toNat_le, hpow]
    exact Nat.one_le_two_pow
  have hlast : (count - 1).toNat = 2 ^ zoom.toNat - 1 := by
    rw [UInt64.toNat_sub_of_le _ _ hone, hpow]
    rfl
  have hfits : (count - 1).toNat < UInt32.size := by
    rw [hlast]
    exact Nat.lt_of_le_of_lt (Nat.sub_le_of_le_add (Nat.le_succ_of_le hle)) (by decide)
  have hmax : (count - 1).toUInt32 = maxIndex zoom := by
    rw [← UInt32.toNat_inj, UInt64.toNat_toUInt32, hlast, ← maxIndex_add_one h,
      Nat.add_sub_cancel]
    exact Nat.mod_eq_of_lt (maxIndex zoom).toNat_lt
  rw [lastOnAxis, hcount, Option.bind_eq_bind, Option.bind_some, pred, if_pos hone,
    Option.bind_some, narrow, if_pos hfits, hmax]

/-- Without the check of the zoom the arithmetic would stop: the largest index at zoom 40 does not
fit the half word, and at zoom 64 there are not enough places. -/
example : lastOnAxis 40 = none ∧ shiftOne 64 = none := by decide

/-- No step on the way from a key to its address stops. -/
theorem archiveRow_eq (k : TileKey) : archiveRow k.zoom k.x k.y = some k.archiveRow := by
  rw [archiveRow, lastOnAxis_eq k.onGrid.zoom_le, Option.bind_eq_bind, Option.bind_some, sub,
    if_pos k.y_le]
  rfl

/-- A check of the zoom that fails ends the step, and one that passes goes on. -/
theorem run_tilesOnAxis_bind {α : Type} (zoom : UInt8) (f : UInt64 → Step α) :
    (tilesOnAxis zoom >>= f).run = if zoom.toNat ≤ 30 then (shiftOne zoom).bind fun n => (f n).run
      else some (.error (.zoom zoom)) := by
  rw [tilesOnAxis]
  by_cases hzoom : zoom.toNat ≤ 30
  · rw [if_neg (UInt8.not_lt.2 (le_maxZoom_iff.2 hzoom)), if_pos hzoom]
    cases shiftOne zoom <;> rfl
  · rw [if_pos (UInt8.not_le.1 (mt le_maxZoom_iff.1 hzoom)), if_neg hzoom]
    rfl

/-- Checking three numbers never stops, and comes to what making a key does. -/
theorem run_key (zoom : UInt8) (x y : UInt32) :
    (key zoom x y).run = some ((TileKey.make? zoom x y).map TileKey.numbers) := by
  rw [key, run_tilesOnAxis_bind]
  split
  · next hzoom =>
    obtain ⟨count, hcount, hpow⟩ := exists_shiftOne hzoom
    have hle (i : UInt32) : count ≤ i.toUInt64 ↔ ¬i.toNat < 2 ^ zoom.toNat := by
      rw [UInt64.le_iff_toNat_le, hpow, UInt32.toNat_toUInt64, Nat.not_lt]
    have hoff : count ≤ x.toUInt64 ∨ count ≤ y.toUInt64 ↔
        ¬(x.toNat < 2 ^ zoom.toNat ∧ y.toNat < 2 ^ zoom.toNat) := by
      rw [hle, hle, not_and_or]
    rw [hcount, Option.bind_some]
    by_cases hgrid : x.toNat < 2 ^ zoom.toNat ∧ y.toNat < 2 ^ zoom.toNat
    · obtain ⟨k, hk⟩ := TileKey.exists_make?_iff.2 ⟨hzoom, hgrid.1, hgrid.2⟩
      obtain ⟨rfl, rfl, rfl⟩ := TileKey.make?_eq_ok_iff.1 hk
      rw [if_neg (hoff.not_left.2 hgrid), hk]
      rfl
    · rw [if_pos (hoff.2 hgrid), TileKey.make?_eq_error_iff.2 (.inr ⟨hzoom, hgrid, rfl⟩)]
      rfl
  · next hzoom =>
    rw [TileKey.make?_eq_error_iff.2 (.inl ⟨Nat.lt_of_not_le hzoom, rfl⟩)]
    rfl

/-- Turning three numbers into an address never stops. -/
theorem run_toArchive (zoom : UInt8) (x y : UInt32) :
    (toArchive zoom x y).run = some (archiveRow? zoom x y) := by
  rw [toArchive, ExceptT.run_bind, run_key, archiveRow?]
  cases hmake : TileKey.make? zoom x y with
  | error e => rfl
  | ok k => exact congrArg (Option.map Except.ok) (archiveRow_eq k)

/-- Turning an address into three numbers never stops. -/
theorem run_ofArchive (a : ArchiveRow) :
    (ofArchive a).run = some (a.key?.map TileKey.numbers) := by
  rw [ofArchive, run_tilesOnAxis_bind, ArchiveRow.key?]
  split
  · next hzoom =>
    obtain ⟨count, hcount, -⟩ := exists_shiftOne hzoom
    rw [if_pos (le_maxZoom_iff.2 hzoom), hcount, Option.bind_some, lastOnAxis_eq hzoom]
    by_cases hrow : a.row ≤ maxIndex a.zoom
    · have hsub : sub (maxIndex a.zoom) a.row = some (maxIndex a.zoom - a.row) := if_pos hrow
      rw [if_pos hrow, ← run_key]
      show (if maxIndex a.zoom < a.row then throw (.offGrid a.zoom a.column a.row) else
        liftM (sub (maxIndex a.zoom) a.row) >>= key a.zoom a.column : Step _).run = _
      rw [if_neg (UInt32.not_lt.2 hrow), hsub]
      rfl
    · rw [if_neg hrow]
      exact congrArg ExceptT.run (if_pos (UInt32.not_le.1 hrow))
  · next hzoom =>
    rw [if_neg (mt le_maxZoom_iff.1 hzoom)]
    rfl

end Checked

/-! ## There and back -/

/-- A row from one edge and the same row from the other leave out the row itself. -/
theorem toNat_maxIndex_sub {zoom : UInt8} {y : UInt32} (hzoom : zoom.toNat ≤ 30)
    (hy : y.toNat < 2 ^ zoom.toNat) :
    (maxIndex zoom - y).toNat + y.toNat + 1 = 2 ^ zoom.toNat := by
  have hle : y ≤ maxIndex zoom := (le_maxIndex_iff hzoom).2 hy
  rw [UInt32.toNat_sub_of_le _ _ hle, Nat.sub_add_cancel (UInt32.le_iff_toNat_le.1 hle),
    maxIndex_add_one hzoom]

namespace ArchiveRow

variable {a : ArchiveRow} {k : TileKey} {e : AddressError}

/-- What an address off the grid is blamed for: the zoom before the row, the row before the column.
A row that is on the grid is given from the north edge. -/
inductive Blamed (a : ArchiveRow) : AddressError → Prop
  | zoom (hzoom : 30 < a.zoom.toNat) : Blamed a (.zoom a.zoom)
  | row (hzoom : a.zoom.toNat ≤ 30) (hrow : 2 ^ a.zoom.toNat ≤ a.row.toNat) :
    Blamed a (.offGrid a.zoom a.column a.row)
  | column (hzoom : a.zoom.toNat ≤ 30) (hcolumn : 2 ^ a.zoom.toNat ≤ a.column.toNat) (y : UInt32)
    (hy : y.toNat + a.row.toNat + 1 = 2 ^ a.zoom.toNat) : Blamed a (.offGrid a.zoom a.column y)

/-- The address of a key is on the grid. -/
theorem onGrid_archiveRow (k : TileKey) :
    OnGrid k.archiveRow.zoom k.archiveRow.column k.archiveRow.row := by
  have hsum := toNat_maxIndex_sub k.onGrid.zoom_le k.onGrid.y_lt
  refine ⟨k.onGrid.zoom_le, k.onGrid.x_lt, ?_⟩
  show (maxIndex k.zoom - k.y).toNat < 2 ^ k.zoom.toNat
  omega

/-- A zoom above 30 is the first thing to be refused. -/
theorem key?_of_zoom (h : 30 < a.zoom.toNat) : a.key? = .error (.zoom a.zoom) :=
  if_neg (mt le_maxZoom_iff.1 (Nat.not_le.2 h))

/-- A row off the grid is refused with the address as it stands. -/
theorem key?_of_row (hzoom : a.zoom.toNat ≤ 30) (h : 2 ^ a.zoom.toNat ≤ a.row.toNat) :
    a.key? = .error (.offGrid a.zoom a.column a.row) := by
  rw [key?, if_pos (le_maxZoom_iff.2 hzoom), if_neg (mt (le_maxIndex_iff hzoom).1 (Nat.not_lt.2 h))]

/-- A row on the grid is counted from the other edge. -/
theorem key?_of_row_lt (hzoom : a.zoom.toNat ≤ 30) (h : a.row.toNat < 2 ^ a.zoom.toNat) :
    a.key? = TileKey.make? a.zoom a.column (maxIndex a.zoom - a.row) := by
  rw [key?, if_pos (le_maxZoom_iff.2 hzoom), if_pos ((le_maxIndex_iff hzoom).2 h)]

/-- **An address has the key whose address it is.** -/
theorem key?_eq_ok_iff : a.key? = .ok k ↔ k.archiveRow = a := by
  have hflip (last y : UInt32) : last - (last - y) = y := by grind
  constructor
  · intro h
    rw [key?] at h
    split at h
    · split at h
      · obtain ⟨hzoom, hx, hy⟩ := TileKey.make?_eq_ok_iff.1 h
        rw [TileKey.archiveRow, hzoom, hx, hy, hflip]
      · cases h
    · cases h
  · rintro rfl
    obtain ⟨hzoom, -, hrow⟩ := onGrid_archiveRow k
    rw [key?_of_row_lt hzoom hrow, TileKey.make?_eq_ok_iff]
    exact ⟨rfl, rfl, (hflip _ _).symm⟩

/-- The addresses with a key are those on the grid. -/
theorem exists_key?_iff : (∃ k, a.key? = .ok k) ↔ OnGrid a.zoom a.column a.row := by
  constructor
  · rintro ⟨k, hk⟩
    obtain rfl := key?_eq_ok_iff.1 hk
    exact onGrid_archiveRow k
  · rintro ⟨hzoom, hcolumn, hrow⟩
    have hsum := toNat_maxIndex_sub hzoom hrow
    rw [key?_of_row_lt hzoom hrow, TileKey.exists_make?_iff]
    exact ⟨hzoom, hcolumn, by omega⟩

/-- An address is refused for what it is blamed for. -/
theorem key?_eq_error_iff : a.key? = .error e ↔ a.Blamed e := by
  constructor
  · intro h
    rcases Nat.lt_or_ge 30 a.zoom.toNat with hzoom | hzoom
    · rw [key?_of_zoom hzoom] at h
      cases h
      exact .zoom hzoom
    rcases Nat.lt_or_ge a.row.toNat (2 ^ a.zoom.toNat) with hrow | hrow
    · have hsum := toNat_maxIndex_sub hzoom hrow
      rw [key?_of_row_lt hzoom hrow, TileKey.make?_eq_error_iff] at h
      rcases h with ⟨hzoom', -⟩ | ⟨-, hoff, rfl⟩
      · omega
      · exact .column hzoom (by omega) _ hsum
    · rw [key?_of_row hzoom hrow] at h
      cases h
      exact .row hzoom hrow
  · rintro (hzoom | ⟨hzoom, hrow⟩ | ⟨hzoom, hcolumn, y, hy⟩)
    · exact key?_of_zoom hzoom
    · exact key?_of_row hzoom hrow
    · have hrow : a.row.toNat < 2 ^ a.zoom.toNat := by omega
      have hsum := toNat_maxIndex_sub hzoom hrow
      have hsame : y = maxIndex a.zoom - a.row := UInt32.toNat_inj.1 (by omega)
      rw [key?_of_row_lt hzoom hrow, TileKey.make?_eq_error_iff, hsame]
      exact .inr ⟨hzoom, by omega, rfl⟩

end ArchiveRow

/-! ## From a column and a row -/

/-- Three numbers have the address of the key they make. -/
theorem archiveRow?_eq_ok_iff {zoom : UInt8} {x y : UInt32} {a : ArchiveRow} :
    archiveRow? zoom x y = .ok a ↔ ∃ k, TileKey.make? zoom x y = .ok k ∧ k.archiveRow = a := by
  rw [archiveRow?]
  cases TileKey.make? zoom x y with
  | error e => simp [Except.map]
  | ok k => simp [Except.map]

/-- Three numbers have no address for the reason that they make no key. -/
theorem archiveRow?_eq_error_iff {zoom : UInt8} {x y : UInt32} {e : AddressError} :
    archiveRow? zoom x y = .error e ↔ TileKey.make? zoom x y = .error e := by
  rw [archiveRow?]
  cases TileKey.make? zoom x y with
  | error e => simp [Except.map]
  | ok k => simp [Except.map]

/-- **Keys and archive addresses are inverse to each other, each on just its domain.** An address
has a key just if the grid has its column and its row, and the key is the one with that address; the
address of a key is on the grid, has the row that is left over on the other side of the key's own,
and leads back to the key. An address without a key is blamed for its zoom if that is too high, and
else for not being on the grid; so are a zoom, a column and a row, whose archive address is that of
their key. Step by step, in arithmetic that stops where a word would overflow, all of this comes to
the same: it never stops. -/
theorem addressing_exact :
    (∀ a : ArchiveRow, (∃ k, a.key? = .ok k) ↔ OnGrid a.zoom a.column a.row) ∧
    (∀ (a : ArchiveRow) (k : TileKey), a.key? = .ok k ↔ k.archiveRow = a) ∧
    (∀ k : TileKey, OnGrid k.archiveRow.zoom k.archiveRow.column k.archiveRow.row ∧
      k.archiveRow.row.toNat + k.y.toNat + 1 = 2 ^ k.zoom.toNat ∧ k.archiveRow.key? = .ok k) ∧
    (∀ (a : ArchiveRow) (e : AddressError), a.key? = .error e ↔ a.Blamed e) ∧
    (∀ (zoom : UInt8) (x y : UInt32),
      ((∃ k, TileKey.make? zoom x y = .ok k) ↔ OnGrid zoom x y) ∧
      (∀ a, archiveRow? zoom x y = .ok a ↔
        ∃ k, TileKey.make? zoom x y = .ok k ∧ k.archiveRow = a) ∧
      ∀ e, archiveRow? zoom x y = .error e ↔ 30 < zoom.toNat ∧ e = .zoom zoom ∨
        zoom.toNat ≤ 30 ∧ ¬(x.toNat < 2 ^ zoom.toNat ∧ y.toNat < 2 ^ zoom.toNat) ∧
          e = .offGrid zoom x y) ∧
    (∀ k : TileKey, Checked.archiveRow k.zoom k.x k.y = some k.archiveRow) ∧
    (∀ (zoom : UInt8) (x y : UInt32),
      (Checked.key zoom x y).run = some ((TileKey.make? zoom x y).map TileKey.numbers) ∧
      (Checked.toArchive zoom x y).run = some (archiveRow? zoom x y)) ∧
    ∀ a : ArchiveRow, (Checked.ofArchive a).run = some (a.key?.map TileKey.numbers) := by
  refine ⟨fun a => ArchiveRow.exists_key?_iff, fun a k => ArchiveRow.key?_eq_ok_iff, fun k => ?_,
    fun a e => ArchiveRow.key?_eq_error_iff, fun zoom x y => ⟨TileKey.exists_make?_iff,
      fun a => archiveRow?_eq_ok_iff, fun e => ?_⟩, Checked.archiveRow_eq, fun zoom x y =>
        ⟨Checked.run_key zoom x y, Checked.run_toArchive zoom x y⟩, Checked.run_ofArchive⟩
  · exact ⟨ArchiveRow.onGrid_archiveRow k, toNat_maxIndex_sub k.onGrid.zoom_le k.onGrid.y_lt,
      ArchiveRow.key?_eq_ok_iff.2 rfl⟩
  · rw [archiveRow?_eq_error_iff, TileKey.make?_eq_error_iff]

end TileScope
