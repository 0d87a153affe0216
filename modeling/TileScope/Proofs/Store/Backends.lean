import TileScope.Archive.Session
import TileScope.Proofs.Grid.Notation
import TileScope.Proofs.Scan.Outcome
import TileScope.Service.Store

/-!
# One map behind two stores

A map of tiles can stand in the table of an archive, a row for each tile, or behind the addresses of
a tile service. Both stores give back the map (`Store.backends_agree`):

| tile | archive | service |
| --- | --- | --- |
| in the map | its bytes | its bytes |
| not in the map | not found | a failed fetch |

No tile reads the row or the address of another one, since different keys have different rows and
are written differently. The outcome of a tile in a scan is settled by what the store gives, so two
scans agree on every tile of the map.
-/

namespace TileScope

namespace Archive

/-- The row of a tile: its numbers and its bytes. -/
def TileRow.ofTile (key : TileKey) (bytes : ByteArray) : TileRow where
  zoom := .integer key.archiveRow.zoom.toNat
  column := .integer key.archiveRow.column.toNat
  row := .integer key.archiveRow.row.toNat
  data := .blob bytes

/-- The table of tiles has a row for each tile of a map and no other, in whatever order. -/
structure Database.Holds (d : Database) (tiles : OrderedMap TileKey ByteArray) : Prop where
  rows : ∃ order : List (TileKey × ByteArray),
    order.Perm tiles.entries ∧ d.tiles = some (order.map fun e => .ofTile e.1 e.2)
  whole : d.tilesFault = none

section Table

variable {d : Database} {tiles : OrderedMap TileKey ByteArray} {key other : TileKey}
  {bytes : ByteArray}

/-- The row of a tile is at the place of that tile and no other. -/
theorem TileRow.isAt_ofTile : (ofTile other bytes).isAt key.archiveRow.zoom.toNat
    key.archiveRow.column.toNat key.archiveRow.row.toNat = true ↔ other = key := by
  simp only [isAt, ofTile, Cell.isNumber, Bool.and_eq_true, decide_eq_true_eq, Nat.cast_inj,
    UInt8.toNat_inj, UInt32.toNat_inj]
  constructor
  · rintro ⟨⟨hz, hx⟩, hy⟩
    refine TileKey.archiveRow_injective ?_
    cases hother : other.archiveRow
    cases hkey : key.archiveRow
    simp_all
  · rintro rfl
    exact ⟨⟨rfl, rfl⟩, rfl⟩

/-- Rows are kept as they are put in: the columns of numbers hold numbers. -/
theorem TileRow.kept_ofTile : (ofTile key bytes).kept = ofTile key bytes := rfl

/-- A table that is made and filled tile by tile, in whatever order, holds the tiles. -/
theorem Database.holds_of_inserts {order : List (TileKey × ByteArray)} (facts : Option (List FactRow))
    (h : order.Perm tiles.entries) :
    ((order.map fun e => Change.insertTile (.ofTile e.1 e.2)).foldl change
      { tiles := some [], facts := facts }).Holds tiles := by
  -- Over all rows that may be there before, since each insertion finds those of the ones before it.
  have step : ∀ (rest : List (TileKey × ByteArray)) (rows : List TileRow),
      (rest.map fun e => Change.insertTile (.ofTile e.1 e.2)).foldl change
        { tiles := some rows, facts := facts }
      = { tiles := some (rows ++ rest.map fun e => .ofTile e.1 e.2), facts := facts } := by
    intro rest
    induction rest with
    | nil => intro rows; simp
    | cons e rest ih =>
      intro rows
      rw [List.map_cons, List.foldl_cons, change, Option.map_some, TileRow.kept_ofTile, ih,
        List.append_assoc]
      rfl
  rw [step, List.nil_append]
  exact ⟨⟨order, h, rfl⟩, rfl⟩

/-- A full table gives each tile of the map, and no row for any other. -/
theorem Database.Holds.tile? (h : d.Holds tiles) (key : TileKey) :
    d.tile? key.archiveRow = .ok (tiles.get? key) := by
  obtain ⟨⟨order, hperm, htiles⟩, hwhole⟩ := h
  have hmem : ∀ e, e ∈ order ↔ tiles.get? e.1 = some e.2 := fun e => by
    rw [OrderedMap.get?_eq_some_iff]
    exact hperm.mem_iff
  rw [Database.tile?, htiles, hwhole]
  dsimp only
  cases hfind : (order.map fun e => TileRow.ofTile e.1 e.2).find? (·.isAt key.archiveRow.zoom.toNat
      key.archiveRow.column.toNat key.archiveRow.row.toNat) with
  | some r =>
    -- The row that is found may be any that fits, but only the tile's own row does.
    obtain ⟨e, he, rfl⟩ := List.mem_map.1 (List.mem_of_find?_eq_some hfind)
    have hkey : e.1 = key := TileRow.isAt_ofTile.1 (List.find?_some hfind)
    rw [← hkey, (hmem e).1 he]
    rfl
  | none =>
    cases hkey : tiles.get? key with
    | none => rfl
    | some bytes =>
      have hrow := List.mem_map_of_mem (f := fun e => TileRow.ofTile e.1 e.2)
        ((hmem (key, bytes)).2 hkey)
      exact absurd (TileRow.isAt_ofTile.2 rfl) (List.find?_eq_none.1 hfind _ hrow)

end Table

/-- A call that can open a connection gets one. -/
theorem Pool.exists_call (p : Pool) : ∃ c, (p.call (.ok () : Except StoreError Unit)).1 = .ok c := by
  rw [call]
  cases p.take? with
  | none => exact ⟨_, rfl⟩
  | some a => exact ⟨a.1, rfl⟩

/-- What a session answers about a tile is what the table says, whatever the state of its
connections. -/
theorem Session.get_database (s : Session) (d : Database) (key : TileKey) :
    (s.get (.database d) key).1 = match d.tile? key.archiveRow with
      | .error e => .error (.io e.message)
      | .ok none => .error (.notFound key)
      | .ok (some bytes) => .ok bytes := by
  obtain ⟨c, hc⟩ := s.pool.exists_call
  rw [get, ask]
  simp only [hc, Contents.database?]
  cases d.tile? key.archiveRow with
  | error e => rfl
  | ok found => cases found <;> rfl

/-- An archive that holds a map gives the tiles of the map and has no other. -/
theorem Session.get_of_holds {d : Database} {tiles : OrderedMap TileKey ByteArray}
    (h : d.Holds tiles) (s : Session) (key : TileKey) :
    (s.store (.database d)).get key = match tiles.get? key with
      | none => .error (.notFound key)
      | some bytes => .ok bytes := by
  show (s.get (.database d) key).1 = _
  rw [s.get_database, h.tile?]
  cases tiles.get? key <;> rfl

end Archive

namespace Service

/-- Different tiles have different addresses, whatever the base address. -/
theorem tileAddress_injective (base : String) : Function.Injective (tileAddress base) := by
  intro a b h
  have hlist := congrArg String.toList h
  simp only [tileAddress, String.toList_append, List.append_cancel_left_eq] at hlist
  exact TileKey.render_injective (String.toList_inj.1 hlist)

/-- A client answers with the tiles of a map at their addresses, and with a failed fetch at every
other address. -/
structure Serves (client : Client) (base : String) (tiles : OrderedMap TileKey ByteArray) :
    Prop where
  answers : ∀ {key bytes}, tiles.get? key = some bytes →
    client (tileAddress base key) = .ok bytes
  refuses : ∀ {address}, (∀ key ∈ tiles.keys, tileAddress base key ≠ address) →
    ∃ cause, client address = .error (.fetch cause)

/-- No tile of the map is at the address of a tile that is not in it. -/
theorem Serves.get_of_none {client : Client} {base : String} {tiles : OrderedMap TileKey ByteArray}
    (h : Serves client base tiles) {key : TileKey} (hkey : tiles.get? key = none) :
    ∃ cause, (store base client).get key = .error (.fetch cause) := by
  refine h.refuses fun other hother haddress => ?_
  rw [tileAddress_injective base haddress, OrderedMap.mem_keys_iff] at hother
  obtain ⟨bytes, hbytes⟩ := hother
  rw [hkey] at hbytes
  cases hbytes

/-- A client that looks an address up among those of a map. -/
def clientOf (base : String) (tiles : OrderedMap TileKey ByteArray) : Client := fun address =>
  match tiles.entries.find? (fun e => tileAddress base e.1 = address) with
  | some e => .ok e.2
  | none => .error (.fetch ("HTTP 404 Not Found from " ++ address))

/-- Every map can be served, under every base address. -/
theorem serves_clientOf (base : String) (tiles : OrderedMap TileKey ByteArray) :
    Serves (clientOf base tiles) base tiles where
  answers {key bytes} hkey := by
    have hmem : (key, bytes) ∈ tiles.entries := OrderedMap.get?_eq_some_iff.1 hkey
    rw [clientOf]
    split
    · next e hfind =>
      have haddress : tileAddress base e.1 = tileAddress base key := by
        simpa using List.find?_some hfind
      have he : tiles.get? e.1 = some e.2 :=
        OrderedMap.get?_eq_some_iff.2 (List.mem_of_find?_eq_some hfind)
      rw [tileAddress_injective base haddress, hkey] at he
      rw [Option.some.inj he]
    · next hfind => simpa using List.find?_eq_none.1 hfind _ hmem
  refuses {address} hother := by
    rw [clientOf]
    split
    · next e hfind =>
      refine absurd (by simpa using List.find?_some hfind)
        (hother e.1 (List.mem_map_of_mem (List.mem_of_find?_eq_some hfind)))
    · exact ⟨_, rfl⟩

end Service

/-- **Two stores, one map.** An archive that holds a map and a service that serves it give the same
bytes for the tiles of the map, and scans of them the same outcomes, each scanned or failed. A tile
that is not in the map is absent from the archive, and a failed fetch from the service. -/
theorem Store.backends_agree {tiles : OrderedMap TileKey ByteArray} {d : Archive.Database}
    {base : String} {client : Service.Client} (hd : d.Holds tiles)
    (hc : Service.Serves client base tiles) (session : Archive.Session) :
    let archive := session.store (.database d)
    let service := Service.store base client
    (∀ key bytes, tiles.get? key = some bytes →
      archive.get key = .ok bytes ∧ service.get key = .ok bytes ∧
      ∀ keys query, key ∈ keys → ∃ o,
        (archive.scan false keys query).outcomes.get? key = some o ∧
        (service.scan false keys query).outcomes.get? key = some o ∧
        ((∃ tile, o = .scanned tile) ∨ ∃ e, o = .failed e)) ∧
    ∀ key, tiles.get? key = none → ∃ cause,
      archive.get key = .error (.notFound key) ∧ service.get key = .error (.fetch cause) ∧
      ∀ keys query, key ∈ keys →
        (archive.scan false keys query).outcomes.get? key = some .absent ∧
        (service.scan false keys query).outcomes.get? key
          = some (.failed (.store (.fetch cause))) := by
  intro archive service
  refine ⟨fun key bytes hkey => ?_, fun key hkey => ?_⟩
  · have harchive : archive.get key = .ok bytes := by
      rw [session.get_of_holds hd, hkey]
    have hservice : service.get key = .ok bytes := hc.answers hkey
    -- Both stores give the same bytes, so both scans come to the same outcome.
    refine ⟨harchive, hservice, fun keys query hmem =>
      ⟨archive.scanTile false query key, archive.get?_outcomes_of_mem false query hmem, ?_, ?_⟩⟩
    · rw [service.get?_outcomes_of_mem false query hmem,
        Store.scanTile_congr (harchive.trans hservice.symm)]
    · rcases archive.scanTile_cases query key with
        ⟨loaded, -, h⟩ | ⟨missing, hget, -⟩ | ⟨e, -, -, h⟩
      · exact .inl ⟨_, h⟩
      · rw [harchive] at hget
        cases hget
      · exact .inr ⟨e, h⟩
  · have harchive : archive.get key = .error (.notFound key) := by
      rw [session.get_of_holds hd, hkey]
    obtain ⟨cause, hservice⟩ := hc.get_of_none hkey
    refine ⟨cause, harchive, hservice, fun keys query hmem => ⟨?_, ?_⟩⟩
    · rw [archive.get?_outcomes_of_mem false query hmem,
        Store.scanTile_eq_absent_iff.2 ⟨key, harchive⟩]
    · rw [service.get?_outcomes_of_mem false query hmem,
        Store.scanTile_of_get_error hservice rfl]

section TwoTiles

/-- The tile south of the equator, and the tile of the whole world. -/
def twoTiles : List (TileKey × ByteArray) :=
  [(⟨1, 0, 1, by decide, by decide, by decide⟩, ofOctets [7]),
    (⟨0, 0, 0, by decide, by decide, by decide⟩, ofOctets [])]

/-- Two tiles that are put into an archive in the order of neither keys nor rows. -/
theorem backends_agree_twoTiles :
    let tiles := OrderedMap.ofList twoTiles
    let d := (twoTiles.map fun e => Archive.Change.insertTile (.ofTile e.1 e.2)).foldl
      Archive.Database.change { tiles := some [] }
    let archive := ({ path := "world" } : Archive.Session).store (.database d)
    let service := Service.store "http://tiles//" (Service.clientOf "http://tiles//" tiles)
    let south : TileKey := ⟨1, 0, 1, by decide, by decide, by decide⟩
    let north : TileKey := ⟨1, 0, 0, by decide, by decide, by decide⟩
    archive.get south = .ok (ofOctets [7]) ∧ service.get south = .ok (ofOctets [7]) ∧
      (archive.scan false [north, south] {}).outcomes.get? north = some .absent ∧
      ∃ cause, (service.scan false [north, south] {}).outcomes.get? north
        = some (.failed (.store (.fetch cause))) := by
  intro tiles d archive service south north
  have hd : d.Holds tiles := Archive.Database.holds_of_inserts none (.swap _ _ _)
  have hagree := Store.backends_agree hd (Service.serves_clientOf "http://tiles//" tiles)
    { path := "world" }
  obtain ⟨harchive, hservice, -⟩ := hagree.1 south (ofOctets [7]) rfl
  obtain ⟨cause, -, -, houtcomes⟩ := hagree.2 north rfl
  have hnorth := houtcomes [north, south] {} List.mem_cons_self
  exact ⟨harchive, hservice, hnorth.1, cause, hnorth.2⟩

end TwoTiles

end TileScope
