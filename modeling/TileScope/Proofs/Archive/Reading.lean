import TileScope.Proofs.Grid.Archive
import TileScope.Proofs.InOrder
import TileScope.Proofs.Ordered.Lookup
import TileScope.Proofs.Store.Backends

/-!
# What tables say

The answers that the tables of an archive allow, said row by row: those about a tile
(`Database.GivesTile`) and those about the metadata (`Database.GivesFacts`). There is just one of
each, and a session gives it (`Session.get_eq_iff`, `Database.metadata_eq_iff`), the second one as
long as its connection does not remember a table that has gone.
-/

namespace TileScope.Archive

/-! ## Rows -/

/-- The row is for a tile: it has the zoom and the column of the key, and as its row the number of
rows to the south. -/
def TileRow.IsFor (key : TileKey) (r : TileRow) : Prop :=
  r.zoom.isNumber key.zoom.toNat = true ∧ r.column.isNumber key.x.toNat = true ∧
    ∃ south : Nat, south + key.y.toNat + 1 = 2 ^ key.zoom.toNat ∧ r.row.isNumber south = true

/-- A row is at the address of a key if it is for the key. -/
theorem TileRow.isAt_iff_isFor {key : TileKey} {r : TileRow} :
    r.isAt key.archiveRow.zoom.toNat key.archiveRow.column.toNat key.archiveRow.row.toNat = true ↔
      r.IsFor key := by
  have hsum : key.archiveRow.row.toNat + key.y.toNat + 1 = 2 ^ key.zoom.toNat :=
    toNat_maxIndex_sub key.onGrid.zoom_le key.onGrid.y_lt
  rw [isAt, Bool.and_eq_true, Bool.and_eq_true, and_assoc]
  refine and_congr_right' (and_congr_right' ⟨fun hrow => ⟨_, hsum, hrow⟩, ?_⟩)
  rintro ⟨south, hsouth, hrow⟩
  obtain rfl : south = key.archiveRow.row.toNat := by omega
  exact hrow

/-- Both columns of the row hold text. -/
def FactRow.IsText (r : FactRow) : Prop := ∃ name value, r = ⟨.text name, .text value⟩

/-- What a row that does not hold text in both columns is blamed for: the name before the value. -/
inductive FactRow.Blamed (r : FactRow) : ReadError → Prop where
  | name {e : ReadError} (h : r.name.text? 0 "name" = .error e) : Blamed r e
  | value {e : ReadError} {name : String} (hname : r.name = .text name)
    (h : r.value.text? 1 "value" = .error e) : Blamed r e

/-- A cell has the text that it holds, if it holds one. -/
theorem Cell.text?_eq_ok_iff {index : Nat} {column s : String} {cell : Cell} :
    cell.text? index column = .ok s ↔ cell = .text s := by
  cases cell <;> simp [text?]

namespace Database

/-- A row is a fact if both of its cells are texts. -/
theorem fact_eq_ok_iff {r : FactRow} {p : String × String} :
    fact r = .ok p ↔ r = ⟨.text p.1, .text p.2⟩ := by
  obtain ⟨n, v⟩ := r
  simp only [fact, bind_eq_ok_iff, Cell.text?_eq_ok_iff, FactRow.mk.injEq]
  constructor
  · rintro ⟨_, rfl, _, rfl, h⟩
    cases h
    exact ⟨rfl, rfl⟩
  · rintro ⟨rfl, rfl⟩
    exact ⟨_, rfl, _, rfl, rfl⟩

/-- The rows that are facts are those of text. -/
theorem exists_fact_iff {r : FactRow} : (∃ p, fact r = .ok p) ↔ r.IsText := by
  simp only [fact_eq_ok_iff, FactRow.IsText, Prod.exists]

/-- Any other row is refused for what it is blamed for. -/
theorem fact_eq_error_iff {r : FactRow} {e : ReadError} : fact r = .error e ↔ r.Blamed e := by
  rw [fact]
  cases hname : r.name.text? 0 "name" with
  | error e' =>
    refine ⟨fun h => ?_, fun h => ?_⟩
    · cases h
      exact .name hname
    · cases h with
      | name h =>
        obtain rfl := Except.error.inj (hname.symm.trans h)
        rfl
      | value h _ =>
        rw [h] at hname
        cases hname
  | ok name =>
    have htext := Cell.text?_eq_ok_iff.1 hname
    show ((r.value.text? 1 "value").bind fun value => .ok (name, value)) = .error e ↔ _
    refine ⟨fun h => ?_, fun h => ?_⟩
    · cases hvalue : r.value.text? 1 "value" with
      | error e' =>
        rw [hvalue] at h
        cases h
        exact .value htext hvalue
      | ok value =>
        rw [hvalue] at h
        cases h
    · cases h with
      | name h =>
        rw [hname] at h
        cases h
      | value _ h => rw [h]; rfl

end Database

/-! ## A tile -/

/-- What the table of tiles says about a tile, if there is such a table: the bytes in the first row
for it. -/
inductive Database.GivesTile (d : Database) (key : TileKey) : Except StoreError ByteArray → Prop where
  | noTable (h : d.tiles = none) : GivesTile d key (.error (.io "no such table: tiles"))
  | absent {rows : List TileRow} (h : d.tiles = some rows) (hnone : ∀ r ∈ rows, ¬r.IsFor key) :
    GivesTile d key (.error (.notFound key))
  | bytes {before behind : List TileRow} {r : TileRow} {bytes : ByteArray}
    (h : d.tiles = some (before ++ r :: behind)) (hbefore : ∀ r' ∈ before, ¬r'.IsFor key)
    (hr : r.IsFor key) (hdata : r.data = .blob bytes) : GivesTile d key (.ok bytes)
  | notBytes {before behind : List TileRow} {r : TileRow}
    (h : d.tiles = some (before ++ r :: behind)) (hbefore : ∀ r' ∈ before, ¬r'.IsFor key)
    (hr : r.IsFor key) (hdata : ∀ bytes, r.data ≠ .blob bytes) :
    GivesTile d key
      (.error (.io s!"Invalid column type {r.data.kind} at index: 0, name: tile_data"))

namespace Session

variable {d : Database} {key : TileKey} {a : Except StoreError ByteArray}

/-- A session gives what the database does for a tile, as long as reading it does not fail. -/
theorem get_of_gives (s : Session) (hwhole : d.tilesFault = none) (h : d.GivesTile key a) :
    (s.get (.database d) key).1 = a := by
  have hfirst {before behind : List TileRow} {r : TileRow} (hbefore : ∀ r' ∈ before, ¬r'.IsFor key)
      (hr : r.IsFor key) : (before ++ r :: behind).find? (·.isAt key.archiveRow.zoom.toNat
        key.archiveRow.column.toNat key.archiveRow.row.toNat) = some r := by
    have hnone : before.find? (·.isAt key.archiveRow.zoom.toNat key.archiveRow.column.toNat
        key.archiveRow.row.toNat) = none :=
      List.find?_eq_none.2 fun r' hr' => mt TileRow.isAt_iff_isFor.1 (hbefore r' hr')
    rw [List.find?_append, hnone, Option.none_or,
      List.find?_cons_of_pos (TileRow.isAt_iff_isFor.2 hr)]
  rw [s.get_database, Database.tile?]
  cases h with
  | noTable h => rw [h]; rfl
  | absent h hnone =>
    have hfind := List.find?_eq_none.2 fun r hr => mt TileRow.isAt_iff_isFor.1 (hnone r hr)
    simp only [h, hfind, hwhole]
  | bytes h hbefore hr hdata =>
    simp only [h, hfirst hbefore hr, hdata]
    rfl
  | @notBytes before behind r h hbefore hr hdata =>
    simp only [h, hfirst hbefore hr]
    cases hcell : r.data with
    | blob bytes => exact absurd hcell (hdata bytes)
    | _ => rfl

/-- A database gives something for every tile. -/
theorem exists_givesTile (d : Database) (key : TileKey) : ∃ a, d.GivesTile key a := by
  cases htiles : d.tiles with
  | none => exact ⟨_, .noTable htiles⟩
  | some rows =>
    cases hfind : rows.find? (·.isAt key.archiveRow.zoom.toNat key.archiveRow.column.toNat
      key.archiveRow.row.toNat) with
    | none =>
      exact ⟨_, .absent htiles fun r hr => mt TileRow.isAt_iff_isFor.2 (List.find?_eq_none.1 hfind r hr)⟩
    | some r =>
      obtain ⟨hat, before, behind, rfl, hbefore⟩ := List.find?_eq_some_iff_append.1 hfind
      have hr := TileRow.isAt_iff_isFor.1 hat
      have hnone : ∀ r' ∈ before, ¬r'.IsFor key := fun r' hr' =>
        mt TileRow.isAt_iff_isFor.2 (by simpa using hbefore r' hr')
      by_cases hdata : ∃ bytes, r.data = .blob bytes
      · obtain ⟨bytes, hdata⟩ := hdata
        exact ⟨_, .bytes htiles hnone hr hdata⟩
      · exact ⟨_, .notBytes htiles hnone hr (not_exists.1 hdata)⟩

/-- **A session gives what the table of tiles says**, whatever its connections remember. -/
theorem get_eq_iff (s : Session) (hwhole : d.tilesFault = none) :
    (s.get (.database d) key).1 = a ↔ d.GivesTile key a := by
  refine ⟨fun h => ?_, s.get_of_gives hwhole⟩
  obtain ⟨a', ha'⟩ := exists_givesTile d key
  rwa [← h, s.get_of_gives hwhole ha']

end Session

/-! ## The metadata -/

/-- The last row of a name has the value. -/
def LastFact (rows : List FactRow) (name value : String) : Prop :=
  ∃ before behind, rows = before ++ ⟨.text name, .text value⟩ :: behind ∧
    ∀ r ∈ behind, r.name ≠ .text name

namespace Database

/-- What the table of metadata says, if there is such a table: the last value of every name, or else
what the first row that is not of text is blamed for. -/
inductive GivesFacts (d : Database) : Except StoreError Metadata → Prop where
  | noTable (h : d.facts = none) : GivesFacts d (.ok .empty)
  | facts {rows : List FactRow} {m : Metadata} (h : d.facts = some rows)
    (htext : ∀ r ∈ rows, r.IsText)
    (hm : ∀ name value, m.get? name = some value ↔ LastFact rows name value) :
    GivesFacts d (.ok m)
  | notText {before behind : List FactRow} {r : FactRow} {e : ReadError}
    (h : d.facts = some (before ++ r :: behind)) (hbefore : ∀ r' ∈ before, r'.IsText)
    (hr : r.Blamed e) : GivesFacts d (.error (.io e.message))

/-- Without a table of metadata there is none. -/
theorem GivesFacts.eq_empty {d : Database} {a : Except StoreError Metadata} (h : d.GivesFacts a)
    (hnone : d.facts = none) : a = .ok .empty := by
  cases h with
  | noTable h => rfl
  | facts h _ _ | notText h _ _ =>
    rw [hnone] at h
    cases h

/-- A list of names and values gives each name its last value. -/
theorem get?_ofList_iff {facts : List (String × String)} {name value : String} :
    (OrderedMap.ofList facts).get? name = some value ↔
      LastFact (facts.map fun p => ⟨.text p.1, .text p.2⟩) name value := by
  rw [OrderedMap.ofList, OrderedMap.get?_foldl_insert_eq_some_iff]
  simp only [OrderedMap.get?_empty, reduceCtorEq, false_and, or_false]
  constructor
  · rintro ⟨before, behind, rfl, hbehind⟩
    refine ⟨_, _, List.map_append, fun r hr => ?_⟩
    obtain ⟨p, hp, rfl⟩ := List.mem_map.1 hr
    exact fun h => hbehind p hp (Cell.text.inj h)
  · rintro ⟨before, behind, hfacts, hbehind⟩
    obtain ⟨before', rest, rfl, -, hrest⟩ := List.map_eq_append_iff.1 hfacts
    obtain ⟨⟨name', value'⟩, behind', rfl, hp, rfl⟩ := List.map_eq_cons_iff.1 hrest
    cases hp
    exact ⟨before', behind', rfl, fun p hp h =>
      hbehind _ (List.mem_map_of_mem hp) (congrArg Cell.text h)⟩

variable {d : Database} {a : Except StoreError Metadata}

/-- The rows of text are those that names and values make up. -/
theorem mapM_fact_eq_ok_iff {rows : List FactRow} {facts : List (String × String)} :
    rows.mapM fact = .ok facts ↔ rows = facts.map fun p => ⟨.text p.1, .text p.2⟩ := by
  rw [mapM_eq_ok_iff]
  induction rows generalizing facts with
  | nil => cases facts <;> simp
  | cons r rows ih =>
    cases facts with
    | nil => simp
    | cons p facts => simp only [List.map_cons, List.cons.injEq, ih, fact_eq_ok_iff]

/-- Metadata is what the database gives, as long as reading it does not fail. -/
theorem metadata_of_gives {remembered : Bool} (hwhole : d.factsFault = none)
    (hremembered : d.facts = none → remembered = false) (h : d.GivesFacts a) :
    (d.metadata remembered).mapError (fun e => .io e.message) = a := by
  cases h with
  | noTable h => rw [metadata, h, hremembered h]; rfl
  | @facts rows m h htext hm =>
    obtain ⟨facts, rfl⟩ : ∃ facts : List (String × String),
        rows = facts.map fun p => ⟨.text p.1, .text p.2⟩ := by
      cases hrows : rows.mapM fact with
      | ok facts => exact ⟨facts, mapM_fact_eq_ok_iff.1 hrows⟩
      | error e =>
        obtain ⟨before, r, behind, rfl, -, hr⟩ := mapM_eq_error_iff.1 hrows
        obtain ⟨p, hp⟩ := exists_fact_iff.2 (htext r (by simp))
        rw [hr] at hp
        cases hp
    have hsame : .ofList facts = m := OrderedMap.ext_get? fun name => Option.ext fun value =>
      get?_ofList_iff.trans (hm name value).symm
    rw [metadata, h, ← hsame]
    simp only [mapM_fact_eq_ok_iff.2 rfl, hwhole]
    rfl
  | @notText before behind r e h hbefore hr =>
    have hrows : (before ++ r :: behind).mapM fact = .error e :=
      mapM_eq_error (fun r' hr' => exists_fact_iff.2 (hbefore r' hr')) (fact_eq_error_iff.2 hr)
    simp only [metadata, h, hrows]
    rfl

/-- A database gives some metadata, or an error. -/
theorem exists_givesFacts (d : Database) : ∃ a, d.GivesFacts a := by
  cases hfacts : d.facts with
  | none => exact ⟨_, .noTable hfacts⟩
  | some rows =>
    cases hrows : rows.mapM fact with
    | error e =>
      obtain ⟨before, r, behind, rfl, hbefore, hr⟩ := mapM_eq_error_iff.1 hrows
      exact ⟨_, .notText hfacts (fun r' hr' => exists_fact_iff.1 (hbefore r' hr'))
        (fact_eq_error_iff.1 hr)⟩
    | ok facts =>
      obtain rfl := mapM_fact_eq_ok_iff.1 hrows
      refine ⟨_, .facts hfacts (fun r hr => ?_) fun name value => get?_ofList_iff⟩
      obtain ⟨p, -, rfl⟩ := List.mem_map.1 hr
      exact ⟨p.1, p.2, rfl⟩

/-- **The metadata are what the table of them says**, unless the connection remembers a table that
has gone. -/
theorem metadata_eq_iff {remembered : Bool} (hwhole : d.factsFault = none)
    (hremembered : d.facts = none → remembered = false) :
    (d.metadata remembered).mapError (fun e => StoreError.io e.message) = a ↔ d.GivesFacts a := by
  refine ⟨fun h => ?_, metadata_of_gives hwhole hremembered⟩
  obtain ⟨a', ha'⟩ := exists_givesFacts d
  rwa [← h, metadata_of_gives hwhole hremembered ha']

end Database

end TileScope.Archive
