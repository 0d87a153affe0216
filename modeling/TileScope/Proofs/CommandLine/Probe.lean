import TileScope.CommandLine.Run
import TileScope.Proofs.Scan.Independence

/-!
# One tile, probed and scanned

A probe fetches a tile, removes its envelope and decodes it by itself, apart from scans. The two
come to the same for every tile of every store (`probedTile_iff_scan`):

| the probe | the scan of the one tile |
| --- | --- |
| gives a tile with its sizes | scanned, with the tile and its sizes |
| fails, as the store does not have the tile | absent |
| fails otherwise | failed, with the same error |
-/

namespace TileScope

namespace Store

variable {s : Store} {key : TileKey} {query : Query}

/-- A scan has the tiles that can be loaded. -/
theorem exists_scanTile_eq_scanned_iff {loaded : LoadedTile} :
    (∃ hits, s.scanTile false query key = .scanned ⟨loaded, hits⟩) ↔ s.load key = .ok loaded := by
  rcases scanTile_cases s query key with
    ⟨loaded', hload, h⟩ | ⟨missing, hget, h⟩ | ⟨e, hload, -, h⟩
  · rw [h, hload, Except.ok.injEq]
    constructor
    · rintro ⟨hits, h⟩
      exact congrArg ScannedTile.toLoadedTile (Outcome.scanned.inj h)
    · rintro rfl
      exact ⟨_, rfl⟩
  · simp [h, load_of_get_error hget]
  · simp [h, hload]

/-- A scan fails for a tile with the error of loading it. -/
theorem scanTile_eq_failed_iff {e : TileError} (he : ∀ missing, e ≠ .store (.notFound missing)) :
    s.scanTile false query key = .failed e ↔ s.load key = .error e := by
  rcases scanTile_cases s query key with
    ⟨loaded, hload, h⟩ | ⟨missing, hget, h⟩ | ⟨e', hload, -, h⟩
  · simp [h, hload]
  · simp [h, load_of_get_error hget, (he missing).symm]
  · simp [h, hload]

end Store

namespace CommandLine

variable {s : Store} {key : TileKey}

/-- The probe's way to a tile and the scan's are one, up to the form of the failure. -/
theorem probedTile_eq (s : Store) (key : TileKey) :
    probedTile s key = (s.load key).mapError (.tile key) := by
  rw [probedTile]
  cases hget : s.get key with
  | error e =>
    rw [Store.load_of_get_error hget]
    rfl
  | ok stored =>
    rw [Store.load_of_get hget]
    show (unwrapEnvelope stored).mapError _ >>= _ = _
    cases unwrapEnvelope stored with
    | error e => rfl
    | ok payload =>
      show (Tile.decode (octets payload.bytes)).mapError _ >>= _ = _
      dsimp only
      cases Tile.decode (octets payload.bytes) <;> rfl

/-- A probe has the tile if it can be loaded. -/
theorem probedTile_eq_ok_iff {loaded : LoadedTile} :
    probedTile s key = .ok loaded ↔ s.load key = .ok loaded := by
  rw [probedTile_eq]
  cases s.load key <;> simp [Except.mapError]

/-- A probe fails with the error of loading its tile. -/
theorem probedTile_eq_error_iff {e : TileError} :
    probedTile s key = .error (.tile key e) ↔ s.load key = .error e := by
  rw [probedTile_eq]
  cases s.load key <;> simp [Except.mapError]

/-- Whatever keeps a probe from a tile is an error of the tile. -/
theorem exists_of_probedTile_eq_error {p : Problem} (h : probedTile s key = .error p) :
    ∃ e, p = .tile key e := by
  rw [probedTile_eq] at h
  cases hload : s.load key with
  | ok loaded =>
    rw [hload] at h
    cases h
  | error e =>
    rw [hload] at h
    exact ⟨e, (Except.error.inj h).symm⟩

/-- **A probe and a scan of one tile say the same.** For every store, key and query, in a scan that
is not cancelled: the probe gives a tile, a stored size and a payload size just if these are those
of the only outcome of the scan; it fails because the store does not have the tile just if the tile
is absent; it fails with any other error just if the tile failed with that error, of its kind and
with its message. There is no other way for it to fail. -/
theorem probedTile_iff_scan (s : Store) (key : TileKey) (query : Query) :
    let outcomes := (s.scan false [key] query).outcomes.entries
    (∀ tile stored payload, probedTile s key = .ok ⟨tile, stored, payload⟩ ↔
      ∃ hits, outcomes = [(key, .scanned ⟨⟨tile, stored, payload⟩, hits⟩)]) ∧
    ((∃ missing, probedTile s key = .error (.tile key (.store (.notFound missing)))) ↔
      outcomes = [(key, .absent)]) ∧
    (∀ e, (∀ missing, e ≠ .store (.notFound missing)) →
      (probedTile s key = .error (.tile key e) ↔ outcomes = [(key, .failed e)])) ∧
    ∀ p, probedTile s key = .error p → ∃ e, p = .tile key e := by
  intro outcomes
  have houtcomes : ∀ o, outcomes = [(key, o)] ↔ s.scanTile false query key = o := fun o => by
    have hentries : outcomes = [(key, s.scanTile false query key)] := rfl
    rw [hentries, List.cons.injEq, Prod.mk.injEq, and_iff_left rfl, and_iff_right rfl]
  refine ⟨fun tile stored payload => ?_, ?_, fun e he => ?_,
    fun p => exists_of_probedTile_eq_error⟩
  · simp only [houtcomes, probedTile_eq_ok_iff, Store.exists_scanTile_eq_scanned_iff]
  · simp only [houtcomes, probedTile_eq_error_iff, Store.load_eq_store_error_iff,
      Store.scanTile_eq_absent_iff]
  · rw [houtcomes, probedTile_eq_error_iff, Store.scanTile_eq_failed_iff he]

/-- The start of a gzip member in the west, and nothing in the east. -/
theorem probedTile_iff_scan_cutShort :
    let west : TileKey := ⟨1, 0, 0, by decide, by decide, by decide⟩
    let east : TileKey := ⟨1, 1, 0, by decide, by decide, by decide⟩
    let s := Store.oneTile west (ofOctets [0x1f, 0x8b]) (.error (.notFound east))
    (∀ missing, TileError.envelope .cutShort ≠ .store (.notFound missing)) ∧
      probedTile s west = .error (.tile west (.envelope .cutShort)) ∧
      (s.scan false [west] {}).outcomes.entries = [(west, .failed (.envelope .cutShort))] ∧
      (s.scan false [east] {}).outcomes.entries = [(east, .absent)] := by
  intro west east s
  have hne : ∀ missing, TileError.envelope .cutShort ≠ .store (.notFound missing) := nofun
  have hprobe : probedTile s west = .error (.tile west (.envelope .cutShort)) := by decide +kernel
  obtain ⟨-, -, hfailed, -⟩ := probedTile_iff_scan s west {}
  obtain ⟨-, habsent, -⟩ := probedTile_iff_scan s east {}
  exact ⟨hne, hprobe, (hfailed _ hne).1 hprobe, habsent.1 ⟨east, rfl⟩⟩

end CommandLine

end TileScope
