import TileScope.Proofs.Scan.Schedule

/-!
# Each tile on its own

Every tile of a scan has an outcome, and the outcome depends on nothing but the tile's own bytes and
the query (`Store.scan_independent`): not on the other tiles, not on the order or the repeats of the
keys, not on the order in which workers hand in outcomes, not on the metadata. Each tile is in just
one of the three listings of the report.
-/

namespace TileScope

/-- The tile is in just one of the listings of a report. -/
inductive Report.ListedOnce (r : Report) (key : TileKey) : Prop where
  | scanned (hin : key ∈ r.scanned.keys) (habsent : key ∉ r.absent)
    (hfailures : key ∉ r.failures.keys)
  | absent (hscanned : key ∉ r.scanned.keys) (hin : key ∈ r.absent)
    (hfailures : key ∉ r.failures.keys)
  | failed (hscanned : key ∉ r.scanned.keys) (habsent : key ∉ r.absent)
    (hin : key ∈ r.failures.keys)

/-- Every outcome but "skipped" has its listing. -/
theorem Report.listedOnce_of_outcome {r : Report} {key : TileKey} {o : Outcome}
    (h : r.outcomes.get? key = some o) (hskipped : o ≠ .skipped) : r.ListedOnce key := by
  have hscanned : key ∈ r.scanned.keys ↔ ∃ tile, o = .scanned tile := by
    simp only [OrderedMap.mem_keys_iff, get?_scanned, h, Option.some.injEq]
  have habsent : key ∈ r.absent ↔ o = .absent := by
    rw [mem_absent, h, Option.some.injEq]
  have hfailures : key ∈ r.failures.keys ↔ ∃ e, o = .failed e := by
    simp only [OrderedMap.mem_keys_iff, get?_failures, h, Option.some.injEq]
  cases o with
  | scanned tile => exact .scanned (by simp [hscanned]) (by simp [habsent]) (by simp [hfailures])
  | absent => exact .absent (by simp [hscanned]) (by simp [habsent]) (by simp [hfailures])
  | failed e => exact .failed (by simp [hscanned]) (by simp [habsent]) (by simp [hfailures])
  | skipped => exact absurd rfl hskipped

namespace Store

variable {s : Store} {key : TileKey} {keys more : List TileKey} {query : Query}

/-- Two lists with the same tiles give the same report. -/
theorem scan_congr_keys {cancelled : Bool} (h : ∀ key, key ∈ more ↔ key ∈ keys) :
    s.scan cancelled more query = s.scan cancelled keys query := by
  have hset : OrderedSet.ofList more = OrderedSet.ofList keys := OrderedSet.ext_mem fun key => by
    rw [OrderedSet.mem_ofList, OrderedSet.mem_ofList, h]
  rw [scan, scan, hset]

/-- A scan of two lists of keys has the outcomes of both scans. -/
theorem outcomes_append {cancelled : Bool} : (s.scan cancelled (keys ++ more) query).outcomes
    = (s.scan cancelled keys query).outcomes.union (s.scan cancelled more query).outcomes := by
  refine OrderedMap.ext_get? fun key => Option.ext fun o => ?_
  rw [OrderedMap.get?_union, Option.or_eq_some_iff, ← Option.not_isSome_iff_eq_none,
    Option.isSome_iff_exists]
  simp only [get?_outcomes, List.mem_append]
  by_cases hmore : key ∈ more <;> simp [hmore]

/-- Without a cancellation no tile is skipped. -/
theorem scanTile_ne_skipped : s.scanTile false query key ≠ .skipped := by
  intro h
  rcases scanTile_cases s query key with
    ⟨loaded, -, h'⟩ | ⟨missing, -, h'⟩ | ⟨e, -, -, h'⟩ <;> rw [h] at h' <;> cases h'

/-- The failures of a report are never those of a store that does not have the tile. -/
theorem isNotFound_of_failures {cancelled : Bool} {e : StoreError}
    (h : (s.scan cancelled keys query).failures.get? key = some (.store e)) :
    e.isNotFound = false := by
  rw [Report.get?_failures, get?_outcomes] at h
  obtain ⟨-, h⟩ := h
  cases cancelled with
  | true => cases h
  | false =>
    rcases scanTile_cases s query key with
      ⟨loaded, -, h'⟩ | ⟨missing, -, h'⟩ | ⟨e', -, hne, h'⟩ <;> rw [h] at h'
    · cases h'
    · cases h'
    · obtain rfl : TileError.store e = e' := Outcome.failed.inj h'
      cases e with
      | notFound missing => exact absurd rfl (hne missing)
      | io cause => rfl
      | fetch cause => rfl

/-- **Each tile of a scan is on its own.** For every store, list of keys and query: the report has
every key of the list once and no other; stores that agree on a key give it the same outcome,
whatever else they hold and whatever else is scanned; lists with the same keys give the same report;
however the work is done, it can be brought to an end, and the outcomes then merge into those of the
report; lists behind each other give the outcomes of both; metadata that cannot be read leave the
rest of the report as it is; each key is in one listing, among the absent just if the store says so,
and no failure is that of an absent tile; a scan that was cancelled before skips every key and finds
nothing. -/
theorem scan_independent (s : Store) (keys : List TileKey) (query : Query) :
    ((s.scan false keys query).outcomes.keys.Nodup ∧
      ∀ key, key ∈ (s.scan false keys query).outcomes.keys ↔ key ∈ keys) ∧
    (∀ (t : Store) (more : List TileKey), ∀ key ∈ keys, key ∈ more → s.get key = t.get key →
      (s.scan false keys query).outcomes.get? key = (t.scan false more query).outcomes.get? key) ∧
    (∀ more, (∀ key, key ∈ more ↔ key ∈ keys) →
      s.scan false more query = s.scan false keys query) ∧
    (∀ order, (∀ key, key ∈ order ↔ key ∈ keys) →
      ∀ p, Progress.Steps (s.scanTile false query) (.start order) p →
        (∃ q, Progress.Steps (s.scanTile false query) p q ∧ q.Ended) ∧
        (p.Ended → p.merged = (s.scan false keys query).outcomes)) ∧
    (∀ more, (s.scan false (keys ++ more) query).outcomes =
      (s.scan false keys query).outcomes.union (s.scan false more query).outcomes) ∧
    (∀ e, ({ s with metadata := .error e } : Store).scan false keys query =
      { s.scan false keys query with metadata := .empty }) ∧
    (∀ key ∈ keys, (s.scan false keys query).ListedOnce key ∧
      (key ∈ (s.scan false keys query).absent ↔
        ∃ missing, s.get key = .error (.notFound missing))) ∧
    (∀ key e, (s.scan false keys query).failures.get? key = some (.store e) →
      e.isNotFound = false) ∧
    (∀ key ∈ keys, (s.scan true keys query).outcomes.get? key = some .skipped) ∧
    (s.scan true keys query).totalMatches = 0 := by
  refine ⟨⟨OrderedMap.nodup_keys _, fun key => mem_keys_outcomes⟩, ?_, fun more => scan_congr_keys,
    ?_, fun more => outcomes_append, ?_, ?_, fun key e => isNotFound_of_failures,
    fun key => get?_outcomes_of_mem s true query, ?_⟩
  · intro t more key hkey hmore hget
    rw [get?_outcomes_of_mem s false query hkey, get?_outcomes_of_mem t false query hmore,
      scanTile_congr hget]
  · intro order horder p hsteps
    exact ⟨Progress.exists_ended _ p, Progress.merged_eq_outcomes horder hsteps⟩
  · intro e
    have hsame : ({ s with metadata := .error e } : Store).scanTile false query
        = s.scanTile false query := funext fun key => scanTile_congr rfl
    rw [scan, scan, hsame]
  · intro key hkey
    have hget := get?_outcomes_of_mem s false query hkey
    refine ⟨Report.listedOnce_of_outcome hget scanTile_ne_skipped, ?_⟩
    rw [Report.mem_absent, hget, Option.some.injEq, scanTile_eq_absent_iff]
  · refine Report.totalMatches_eq_zero fun key tile h => ?_
    cases (get?_outcomes.1 h).2

/-- A store that has one tile and answers for all others alike. -/
def oneTile (key : TileKey) (bytes : ByteArray) (others : Except StoreError ByteArray) : Store where
  get k := if k = key then .ok bytes else others
  description := "one tile"
  metadata := .ok .empty

/-- The west of the world in two stores, of which one does not have the east and the other cannot
fetch it. -/
theorem scan_independent_oneTile :
    let west : TileKey := ⟨1, 0, 0, by decide, by decide, by decide⟩
    let east : TileKey := ⟨1, 1, 0, by decide, by decide, by decide⟩
    let lacking := oneTile west (ofOctets []) (.error (.notFound east))
    let failing := oneTile west (ofOctets []) (.error (.fetch "HTTP 500"))
    (lacking.scan false [west, east] {}).outcomes.get? west
        = (failing.scan false [east, west, west] {}).outcomes.get? west ∧
      east ∈ (lacking.scan false [west, east] {}).absent ∧
      (failing.scan true [west, east] {}).totalMatches = 0 := by
  intro west east lacking failing
  obtain ⟨-, hsame, -, -, -, -, hlisted, -⟩ := scan_independent lacking [west, east] {}
  obtain ⟨-, -, -, -, -, -, -, -, -, hcancelled⟩ := scan_independent failing [west, east] {}
  refine ⟨?_, ?_, hcancelled⟩
  · exact hsame failing [east, west, west] west (by simp) (by simp) rfl
  · exact (hlisted east (by simp)).2.2 ⟨east, rfl⟩

end Store

end TileScope
