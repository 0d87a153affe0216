import TileScope.Proofs.Ordered.Lookup
import TileScope.Scan.Basic

/-!
# Outcomes of a scan

What a scan says about one tile, looked up in its report, is what comes of that tile alone
(`Store.get?_outcomes`). What comes of a tile is settled by what the store gives for it
(`Store.scanTile_cases`):

| the store gives | outcome |
| --- | --- |
| bytes that unwrap and decode | scanned |
| bytes that do not, or an error other than "not found" | failed |
| "not found" | absent |

The three listings of a report pick out the tiles of one kind of outcome each.
-/

namespace TileScope

namespace Store

variable {s t : Store} {key : TileKey} {keys : List TileKey} {query : Query} {cancelled : Bool}

/-! ## One tile -/

/-- Nothing but what the store gives for a tile has a part in its outcome. -/
theorem load_congr (h : s.get key = t.get key) : s.load key = t.load key := by
  rw [load, load, h]

/-- What comes of a tile depends on what the store has for it, and on nothing else. -/
theorem scanTile_congr (h : s.get key = t.get key) :
    s.scanTile cancelled query key = t.scanTile cancelled query key := by
  rw [scanTile, scanTile, load_congr h]

/-- An error of the store is the error of the tile. -/
theorem load_of_get_error {e : StoreError} (h : s.get key = .error e) :
    s.load key = .error (.store e) := by
  rw [load, h]
  rfl

/-- What is done with the bytes of a tile. -/
theorem load_of_get {stored : ByteArray} (h : s.get key = .ok stored) :
    s.load key = match unwrapEnvelope stored with
      | .error e => .error (.envelope e)
      | .ok payload => match Tile.decode (octets payload.bytes) with
        | .error e => .error (.decode e)
        | .ok tile => .ok ⟨tile, stored.size, payload.bytes.size⟩ := by
  rw [load, h]
  show (unwrapEnvelope stored).mapError TileError.envelope >>= _ = _
  cases unwrapEnvelope stored with
  | error e => rfl
  | ok payload =>
    show (Tile.decode (octets payload.bytes)).mapError TileError.decode >>= _ = _
    dsimp only
    cases Tile.decode (octets payload.bytes) <;> rfl

/-- Only the store itself makes a store error. -/
theorem load_eq_store_error_iff {e : StoreError} :
    s.load key = .error (.store e) ↔ s.get key = .error e := by
  refine ⟨fun h => ?_, load_of_get_error⟩
  cases hget : s.get key with
  | error e' =>
    rw [load_of_get_error hget] at h
    cases h
    rfl
  | ok stored =>
    rw [load_of_get hget] at h
    split at h
    · cases h
    · split at h <;> cases h

/-- **What comes of a tile.** -/
theorem scanTile_cases (s : Store) (query : Query) (key : TileKey) :
    (∃ loaded, s.load key = .ok loaded ∧
      s.scanTile false query key = .scanned (ScannedTile.search query loaded)) ∨
    (∃ missing, s.get key = .error (.notFound missing) ∧ s.scanTile false query key = .absent) ∨
    ∃ e, s.load key = .error e ∧ (∀ missing, e ≠ .store (.notFound missing)) ∧
      s.scanTile false query key = .failed e := by
  rw [scanTile, if_neg Bool.false_ne_true]
  split
  · next loaded h => exact .inl ⟨loaded, h, rfl⟩
  · next missing h => exact .inr (.inl ⟨missing, load_eq_store_error_iff.1 h, rfl⟩)
  · next e hne h => exact .inr (.inr ⟨e, h, fun missing he => hne missing he, rfl⟩)

/-- A tile is absent if the store has not found it. -/
theorem scanTile_eq_absent_iff :
    s.scanTile false query key = .absent ↔ ∃ missing, s.get key = .error (.notFound missing) := by
  constructor
  · intro h
    rcases scanTile_cases s query key with
      ⟨loaded, -, h'⟩ | ⟨missing, hget, -⟩ | ⟨e, -, -, h'⟩
    · rw [h] at h'
      cases h'
    · exact ⟨missing, hget⟩
    · rw [h] at h'
      cases h'
  · rintro ⟨missing, hget⟩
    rw [scanTile, if_neg Bool.false_ne_true, load_of_get_error hget]

/-- Any other error of the store makes the tile fail. -/
theorem scanTile_of_get_error {e : StoreError} (h : s.get key = .error e)
    (hne : e.isNotFound = false) : s.scanTile false query key = .failed (.store e) := by
  rw [scanTile, if_neg Bool.false_ne_true, load_of_get_error h]
  cases e with
  | notFound missing => cases hne
  | io cause => rfl
  | fetch cause => rfl

/-! ## The report -/

/-- The report has the tiles of the list, each with what comes of it. -/
theorem get?_outcomes {o : Outcome} : (s.scan cancelled keys query).outcomes.get? key = some o ↔
    key ∈ keys ∧ s.scanTile cancelled query key = o := by
  rw [scan, OrderedSet.get?_mapTo, OrderedSet.mem_ofList]

/-- A scan has for each of its keys what comes of that tile. -/
theorem get?_outcomes_of_mem (s : Store) (cancelled : Bool) (query : Query) (h : key ∈ keys) :
    (s.scan cancelled keys query).outcomes.get? key = some (s.scanTile cancelled query key) :=
  get?_outcomes.2 ⟨h, rfl⟩

/-- A scan has outcomes for its keys and for no others. -/
theorem mem_keys_outcomes :
    key ∈ (s.scan cancelled keys query).outcomes.keys ↔ key ∈ keys := by
  rw [scan, OrderedSet.keys_mapTo, ← OrderedSet.mem_def, OrderedSet.mem_ofList]

end Store

namespace Report

variable {r : Report} {key : TileKey}

/-! ## The listings of a report -/

/-- The scanned tiles are the outcomes of that kind. -/
theorem get?_scanned {tile : ScannedTile} :
    r.scanned.get? key = some tile ↔ r.outcomes.get? key = some (.scanned tile) := by
  rw [scanned, OrderedMap.get?_mapEntries]
  cases r.outcomes.get? key with
  | none => simp
  | some o => cases o <;> simp

/-- The failures are the outcomes of that kind. -/
theorem get?_failures {e : TileError} :
    r.failures.get? key = some e ↔ r.outcomes.get? key = some (.failed e) := by
  rw [failures, OrderedMap.get?_mapEntries]
  cases r.outcomes.get? key with
  | none => simp
  | some o => cases o <;> simp

/-- The absent tiles are the outcomes of that kind. -/
theorem mem_absent : key ∈ r.absent ↔ r.outcomes.get? key = some .absent := by
  rw [absent, OrderedMap.mem_keys_iff]
  simp only [OrderedMap.get?_mapEntries]
  cases r.outcomes.get? key with
  | none => simp
  | some o => cases o <;> simp

/-- A report without searched tiles has no matches. -/
theorem totalMatches_eq_zero (h : ∀ key tile, r.outcomes.get? key ≠ some (.scanned tile)) :
    r.totalMatches = 0 := by
  have hnone : r.scanned = .empty := OrderedMap.ext_get? fun key => by
    cases hkey : r.scanned.get? key with
    | none => rfl
    | some tile => exact absurd (get?_scanned.1 hkey) (h key tile)
  rw [totalMatches, hnone]
  rfl

end Report

end TileScope
