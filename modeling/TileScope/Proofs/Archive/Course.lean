import TileScope.Proofs.Archive.Reading

/-!
# Reading an archive that others change

While a session has an archive open, others may put rows into its tables and take them away, and
make and drop the tables. A read answers for the tables as they stand (`Course.answers_exact`), with
one exception: a connection remembers which tables there were when it last read.

| table of metadata | at the last read | metadata |
| --- | --- | --- |
| there | either | what the table says |
| not there | not there, or no read yet | none |
| not there | there | an error, once |

So the archive is never changed by a read, and no read changes a later answer about a tile; it may
change whether the metadata of a table that has gone come out as none or as an error.
-/

namespace TileScope.Archive

/-- One thing that happens to an archive while a session has it open. -/
inductive Event where
  /-- Another connection changes the tables. -/
  | change (c : Change)
  /-- The session reads a tile. -/
  | readTile (key : TileKey)
  /-- The session reads the metadata. -/
  | readFacts

namespace Event

/-- The change that an event makes. -/
def change? : Event → Option Change
  | change c => some c
  | readTile _ => none
  | readFacts => none

/-- The event is a read of the session. -/
def IsRead : Event → Prop
  | change _ => False
  | readTile _ => True
  | readFacts => True

/-- The row that an event puts into the table of tiles, if there is one. -/
def tileRow? : Event → Option TileRow
  | change (.insertTile row) => some row.kept
  | _ => none

/-- The row that an event puts into the table of metadata, if there is one. -/
def factRow? : Event → Option FactRow
  | change (.insertFact row) => some row.kept
  | _ => none

end Event

/-- The change cannot be made: its table is missing, or is there when it is to be made. -/
def Change.Refused (d : Database) : Change → Prop
  | insertTile _ | deleteTile _ _ _ | deleteTileAt _ | drop .tiles => d.tiles = none
  | insertFact _ | deleteFactAt _ | drop .facts => d.facts = none
  | create .tiles => d.tiles ≠ none
  | create .facts => d.facts ≠ none

namespace Database

variable {d : Database}

/-- The tables after some events. -/
def after (d : Database) (events : List Event) : Database :=
  (events.filterMap Event.change?).foldl change d

/-- A change that cannot be made changes nothing. -/
theorem change_of_refused {c : Change} (h : c.Refused d) : d.change c = d := by
  obtain ⟨tiles, facts, tilesFault, factsFault⟩ := d
  cases c with
  | insertTile | deleteTile | deleteTileAt =>
    obtain rfl : tiles = none := h
    rfl
  | insertFact | deleteFactAt =>
    obtain rfl : facts = none := h
    rfl
  | create table =>
    cases table with
    | tiles =>
      obtain ⟨rows, rfl⟩ : ∃ rows, tiles = some rows := Option.ne_none_iff_exists'.1 h
      rfl
    | facts =>
      obtain ⟨rows, rfl⟩ : ∃ rows, facts = some rows := Option.ne_none_iff_exists'.1 h
      rfl
  | drop table =>
    cases table with
    | tiles =>
      obtain rfl : tiles = none := h
      rfl
    | facts =>
      obtain rfl : facts = none := h
      rfl

/-- What an event leaves is what the others find. -/
theorem after_cons (d : Database) (e : Event) (events : List Event) :
    d.after (e :: events) = (d.after [e]).after events := by
  cases e <;> rfl

/-- Events behind others find what these leave. -/
theorem after_append (d : Database) (events more : List Event) :
    d.after (events ++ more) = (d.after events).after more := by
  rw [after, List.filterMap_append, List.foldl_append]
  rfl

/-- Reading changes no rows. -/
theorem after_of_isRead {e : Event} (h : e.IsRead) : d.after [e] = d := by
  cases e with
  | change c => exact h.elim
  | readTile key => rfl
  | readFacts => rfl

/-- No event keeps a table from being read to its end. -/
theorem faults_after (d : Database) (events : List Event) :
    (d.after events).tilesFault = d.tilesFault ∧ (d.after events).factsFault = d.factsFault := by
  induction events generalizing d with
  | nil => exact ⟨rfl, rfl⟩
  | cons e events ih =>
    rw [after_cons, (ih _).1, (ih _).2]
    cases e with
    | change c =>
      cases c with
      | create table | drop table => cases table <;> exact ⟨rfl, rfl⟩
      | _ => exact ⟨rfl, rfl⟩
    | readTile key => exact ⟨rfl, rfl⟩
    | readFacts => exact ⟨rfl, rfl⟩

/-! ## The order of rows -/

/-- The rows of tiles; a table that is missing has none. -/
def tileRows (d : Database) : List TileRow := d.tiles.getD []

/-- The rows of metadata; a table that is missing has none. -/
def factRows (d : Database) : List FactRow := d.facts.getD []

/-- What holds of the rows of any table holds where there is no table. -/
theorem sublist_map_getD {α : Type} {f : List α → List α} {more : List α}
    (o : Option (List α)) (h : ∀ rows, (f rows).Sublist (rows ++ more)) :
    ((o.map f).getD []).Sublist (o.getD [] ++ more) := by
  cases o with
  | none => exact List.nil_sublist _
  | some rows => exact h rows

/-- A row comes in behind the rows that are there, and what is left of them keeps its order. -/
theorem tileRows_event (d : Database) (e : Event) :
    (d.after [e]).tileRows.Sublist (d.tileRows ++ e.tileRow?.toList) := by
  have hkept : d.tileRows.Sublist (d.tileRows ++ []) := (List.append_nil _).symm ▸ .refl _
  cases e with
  | readTile | readFacts => exact hkept
  | change c =>
    cases c with
    | insertTile row => exact sublist_map_getD d.tiles fun rows => .refl _
    | deleteTile zoom column row =>
      exact sublist_map_getD d.tiles fun rows =>
        List.filter_sublist.trans (List.sublist_append_left rows [])
    | deleteTileAt index =>
      exact sublist_map_getD d.tiles fun rows =>
        (List.eraseIdx_sublist _ _).trans (List.sublist_append_left rows [])
    | insertFact | deleteFactAt => exact hkept
    | create table =>
      cases table with
      | tiles => exact hkept
      | facts => exact hkept
    | drop table =>
      cases table with
      | tiles => exact List.nil_sublist _
      | facts => exact hkept

/-- An event keeps some rows of metadata and adds one at most, at the end. -/
theorem factRows_event (d : Database) (e : Event) :
    (d.after [e]).factRows.Sublist (d.factRows ++ e.factRow?.toList) := by
  have hkept : d.factRows.Sublist (d.factRows ++ []) := (List.append_nil _).symm ▸ .refl _
  cases e with
  | readTile | readFacts => exact hkept
  | change c =>
    cases c with
    | insertFact row => exact sublist_map_getD d.facts fun rows => .refl _
    | deleteFactAt index =>
      exact sublist_map_getD d.facts fun rows =>
        (List.eraseIdx_sublist _ _).trans (List.sublist_append_left rows [])
    | insertTile | deleteTile | deleteTileAt => exact hkept
    | create table =>
      cases table with
      | tiles => exact hkept
      | facts => exact hkept
    | drop table =>
      cases table with
      | tiles => exact hkept
      | facts => exact List.nil_sublist _

/-- **Rows stand in the order in which they came in**: those of a table are among the ones that were
there before and the ones that were put in since, in this order. -/
theorem rows_after (d : Database) (events : List Event) :
    (d.after events).tileRows.Sublist (d.tileRows ++ events.filterMap Event.tileRow?) ∧
    (d.after events).factRows.Sublist (d.factRows ++ events.filterMap Event.factRow?) := by
  induction events generalizing d with
  | nil => exact ⟨List.sublist_append_left _ _, List.sublist_append_left _ _⟩
  | cons e events ih =>
    have hcons {β : Type} (f : Event → Option β) :
        (e :: events).filterMap f = (f e).toList ++ events.filterMap f := by
      rw [List.filterMap_cons]
      cases f e <;> rfl
    obtain ⟨htiles, hfacts⟩ := ih (d.after [e])
    rw [after_cons, hcons, hcons, ← List.append_assoc, ← List.append_assoc]
    exact ⟨htiles.trans ((d.tileRows_event e).append_right _),
      hfacts.trans ((d.factRows_event e).append_right _)⟩

end Database

/-! ## What a connection remembers -/

/-- The table of metadata was there at the last read. -/
def SawFacts (d : Database) (events : List Event) : Prop :=
  ∃ before read behind, events = before ++ read :: behind ∧ read.IsRead ∧
    (∀ e ∈ behind, ¬e.IsRead) ∧ (d.after before).facts ≠ none

section Saw

variable {d : Database} {events : List Event} {e : Event}

/-- Before all events nothing was seen. -/
theorem not_sawFacts_nil : ¬SawFacts d [] := by
  rintro ⟨before, read, behind, h, -⟩
  simp at h

/-- A member of a list with one more at its end is that one or a member of the list. -/
theorem concat_eq_append_cons_iff {α : Type} {l before behind : List α} {a b : α} :
    l ++ [a] = before ++ b :: behind ↔
      (before = l ∧ b = a ∧ behind = []) ∨ ∃ rest, behind = rest ++ [a] ∧ l = before ++ b :: rest := by
  rcases List.eq_nil_or_concat behind with rfl | ⟨rest, c, rfl⟩
  · constructor
    · intro h
      obtain ⟨rfl, hlast⟩ := List.append_inj' h rfl
      exact .inl ⟨rfl, (List.singleton_inj.1 hlast).symm, rfl⟩
    · rintro (⟨rfl, rfl, -⟩ | ⟨rest, h, -⟩)
      · rfl
      · simp at h
  · rw [List.concat_eq_append]
    constructor
    · intro h
      rw [← List.cons_append, ← List.append_assoc] at h
      obtain ⟨rfl, hlast⟩ := List.append_inj' h rfl
      exact .inr ⟨rest, (List.singleton_inj.1 hlast) ▸ rfl, rfl⟩
    · rintro (⟨-, -, h⟩ | ⟨rest', h, rfl⟩)
      · simp at h
      · rw [h, List.append_assoc, List.cons_append]

/-- After a read it is that read which counts. -/
theorem sawFacts_concat_of_isRead (h : e.IsRead) :
    SawFacts d (events ++ [e]) ↔ (d.after events).facts ≠ none := by
  constructor
  · rintro ⟨before, read, behind, hevents, -, hbehind, hfacts⟩
    rcases concat_eq_append_cons_iff.1 hevents with ⟨rfl, -⟩ | ⟨rest, rfl, -⟩
    · exact hfacts
    · exact absurd h (hbehind e (by simp))
  · intro hfacts
    exact ⟨events, e, [], rfl, h, List.forall_mem_nil _, hfacts⟩

/-- A change makes no difference to what was seen. -/
theorem sawFacts_concat_of_not_isRead (h : ¬e.IsRead) :
    SawFacts d (events ++ [e]) ↔ SawFacts d events := by
  constructor
  · rintro ⟨before, read, behind, hevents, hread, hbehind, hfacts⟩
    rcases concat_eq_append_cons_iff.1 hevents with ⟨-, rfl, -⟩ | ⟨rest, rfl, rfl⟩
    · exact absurd hread h
    · exact ⟨before, read, rest, rfl, hread,
        fun e' he' => hbehind e' (List.mem_append_left _ he'), hfacts⟩
  · rintro ⟨before, read, behind, rfl, hread, hbehind, hfacts⟩
    refine ⟨before, read, behind ++ [e], by simp, hread, fun e' he' => ?_, hfacts⟩
    rcases List.mem_append.1 he' with he' | he'
    · exact hbehind e' he'
    · exact List.mem_singleton.1 he' ▸ h

end Saw

/-! ## Runs -/

/-- A session and the tables of its archive. -/
structure Course where
  session : Session
  tables : Database

namespace Course

/-- The session on an archive that was just opened. -/
def opened (path : String) (tables : Database) : Course := ⟨{ path }, tables⟩

/-- The session's answer about a tile. -/
def tile (s : Course) (key : TileKey) : Except StoreError ByteArray :=
  (s.session.get (.database s.tables) key).1

/-- The session's answer about the metadata. -/
def facts (s : Course) : Except StoreError Metadata :=
  (s.session.metadata (.database s.tables)).1

/-- The session and the tables after an event. -/
def next (s : Course) : Event → Course
  | .change c => { s with tables := s.tables.change c }
  | .readTile key => { s with session := (s.session.get (.database s.tables) key).2 }
  | .readFacts => { s with session := (s.session.metadata (.database s.tables)).2 }

/-- The session and the tables after some events. -/
def after (s : Course) (events : List Event) : Course := events.foldl next s

/-- The event fails: the read comes to an error, or the change cannot be made. -/
def Fails (s : Course) : Event → Prop
  | .change c => c.Refused s.tables
  | .readTile key => ∃ e, s.tile key = .error e
  | .readFacts => ∃ e, s.facts = .error e

/-- The session uses its first connection alone, which remembers what it saw at its last read. -/
structure Follows (d : Database) (events : List Event) (s : Course) : Prop where
  pool : s.session.pool = .start
  tables : s.tables = d.after events
  memory : (s.session.remembers.get? 0).getD false = true ↔ SawFacts d events

/-- A question goes to the first connection, which remembers what it has seen. -/
theorem ask_start {α : Type} {s : Session} (h : s.pool = .start) (d : Database)
    (question : Database → Bool → Except ReadError α) :
    s.ask (.database d) question =
      ((question d ((s.remembers.get? 0).getD false)).mapError fun e => .io e.message,
        { s with remembers := s.remembers.insert 0 d.facts.isSome }) := by
  rw [Session.ask, h]
  cases s
  cases h
  rfl

/-- A session that was just opened has followed no events. -/
theorem follows_opened (path : String) (d : Database) : Follows d [] (opened path d) :=
  ⟨rfl, rfl, iff_of_false Bool.false_ne_true not_sawFacts_nil⟩

variable {d : Database} {events : List Event} {s : Course}

/-- After a read the session remembers the tables as they stand. -/
theorem Follows.read (h : Follows d events s) {e : Event} (hread : e.IsRead)
    (hnext : s.next e = ⟨{ s.session with
      remembers := s.session.remembers.insert 0 s.tables.facts.isSome }, s.tables⟩) :
    Follows d (events ++ [e]) (s.next e) := by
  rw [hnext]
  refine ⟨h.pool, ?_, ?_⟩
  · rw [Database.after_append, Database.after_of_isRead hread]
    exact h.tables
  · rw [OrderedMap.get?_insert, if_pos rfl, sawFacts_concat_of_isRead hread, ← h.tables,
      Option.getD_some, Option.isSome_iff_ne_none]

/-- **An event keeps what is known about the session.** -/
theorem Follows.next (h : Follows d events s) (e : Event) :
    Follows d (events ++ [e]) (s.next e) := by
  cases e with
  | change c =>
    refine ⟨h.pool, ?_, h.memory.trans (sawFacts_concat_of_not_isRead id).symm⟩
    rw [Database.after_append, ← h.tables]
    rfl
  | readTile key =>
    refine h.read trivial ?_
    have hask := ask_start h.pool s.tables fun d _ => d.tile? key.archiveRow
    rw [Course.next, Session.get, hask]
  | readFacts =>
    refine h.read trivial ?_
    have hask := ask_start h.pool s.tables Database.metadata
    rw [Course.next, Session.metadata, hask]

/-- What is known about a session holds however many events there were. -/
theorem follows_after (path : String) (d : Database) (events : List Event) :
    Follows d events ((opened path d).after events) := by
  induction events using List.reverseRecOn with
  | nil => exact follows_opened path d
  | append_singleton events e ih =>
    rw [after, List.foldl_append]
    exact ih.next e

/-- The metadata of a session is read from the rows at hand, by what its connection remembers. -/
theorem Follows.facts_eq (h : Follows d events s) : s.facts =
    (s.tables.metadata ((s.session.remembers.get? 0).getD false)).mapError fun e => .io e.message :=
  congrArg Prod.fst (ask_start h.pool s.tables Database.metadata)

/-- A table that has gone since the last read is missed once. -/
theorem Follows.facts_of_saw (h : Follows d events s) (hnone : s.tables.facts = none)
    (hsaw : SawFacts d events) : s.facts = .error (.io "no such table: metadata") := by
  rw [h.facts_eq, h.memory.2 hsaw, Database.metadata, hnone]
  rfl

/-- Else the metadata are those in the tables as they stand. -/
theorem Follows.facts_eq_iff (h : Follows d events s) (hwhole : s.tables.factsFault = none)
    (hknown : ¬(s.tables.facts = none ∧ SawFacts d events)) {a : Except StoreError Metadata} :
    s.facts = a ↔ s.tables.GivesFacts a := by
  rw [h.facts_eq]
  refine Database.metadata_eq_iff hwhole fun hnone => ?_
  rw [← Bool.not_eq_true, h.memory]
  exact fun hsaw => hknown ⟨hnone, hsaw⟩

/-- Two courses that come to the same tables give the same metadata unless their tables of metadata
are missing and only one of the sessions saw one. -/
theorem Follows.facts_eq_facts_iff {events' : List Event} {t : Course} (hs : Follows d events s)
    (ht : Follows d events' t) (htables : t.tables = s.tables) (hwhole : s.tables.factsFault = none) :
    t.facts = s.facts ↔
      (s.tables.facts = none → (SawFacts d events' ↔ SawFacts d events)) := by
  have hwhole' : t.tables.factsFault = none := htables ▸ hwhole
  cases hfacts : s.tables.facts with
  | some rows =>
    have hthere : s.tables.facts ≠ none := by simp [hfacts]
    refine iff_of_true ?_ nofun
    rw [ht.facts_eq_iff hwhole' fun h => hthere (htables ▸ h.1), htables,
      ← hs.facts_eq_iff hwhole fun h => hthere h.1]
  | none =>
    have hnone' : t.tables.facts = none := htables ▸ hfacts
    have hempty {events : List Event} {s : Course} (h : Follows d events s)
        (hwhole : s.tables.factsFault = none) (hnone : s.tables.facts = none)
        (hnot : ¬SawFacts d events) : s.facts = .ok .empty :=
      (h.facts_eq_iff hwhole fun hsaw => hnot hsaw.2).2 (.noTable hnone)
    by_cases hsaw : SawFacts d events <;> by_cases hsaw' : SawFacts d events'
    · simp [hs.facts_of_saw hfacts hsaw, ht.facts_of_saw hnone' hsaw', hsaw, hsaw']
    · simp [hs.facts_of_saw hfacts hsaw, hempty ht hwhole' hnone' hsaw', hsaw, hsaw']
    · simp [hempty hs hwhole hfacts hsaw, ht.facts_of_saw hnone' hsaw', hsaw, hsaw']
    · simp [hempty hs hwhole hfacts hsaw, hempty ht hwhole' hnone' hsaw', hsaw, hsaw']

/-- An event that fails leaves the tables as they are. -/
theorem Follows.after_of_fails (h : Follows d events s) {e : Event} (hfails : s.Fails e) :
    d.after (events ++ [e]) = d.after events := by
  rw [Database.after_append]
  cases e with
  | change c => exact Database.change_of_refused (h.tables ▸ hfails)
  | readTile | readFacts => rfl

/-- **A read answers for the tables as they stand**, but for one thing: a table of metadata that has
gone since the last read is missed once, as an error. Whatever happened before, the tables are those
that the changes made, with their rows in the order in which they came in; a tile's bytes are those
of its first row, and the metadata those of the last row of each name. An event that fails leaves
the tables and all later answers about tiles as they are, and the metadata too, unless their table is
missing at the end and without the event the last read would not have seen the same of it. -/
theorem answers_exact (path : String) (tiles : Option (List TileRow))
    (facts : Option (List FactRow)) (events : List Event) :
    let d : Database := { tiles, facts }
    let s := (opened path d).after events
    s.tables = d.after events ∧
    (s.tables.tileRows.Sublist (d.tileRows ++ events.filterMap Event.tileRow?) ∧
      s.tables.factRows.Sublist (d.factRows ++ events.filterMap Event.factRow?)) ∧
    (∀ key a, s.tile key = a ↔ s.tables.GivesTile key a) ∧
    (¬(s.tables.facts = none ∧ SawFacts d events) →
      ∀ a, s.facts = a ↔ s.tables.GivesFacts a) ∧
    (s.tables.facts = none ∧ SawFacts d events →
      s.facts = .error (.io "no such table: metadata")) ∧
    ∀ before e behind, events = before ++ e :: behind →
      ((opened path d).after before).Fails e →
      let t := (opened path d).after (before ++ behind)
      t.tables = s.tables ∧ (∀ key, t.tile key = s.tile key) ∧
        (t.facts = s.facts ↔
          (s.tables.facts = none → (SawFacts d (before ++ behind) ↔ SawFacts d events))) := by
  intro d s
  have hs : Follows d events s := follows_after path d events
  have hwhole : s.tables.tilesFault = none ∧ s.tables.factsFault = none := by
    rw [hs.tables]
    exact d.faults_after events
  refine ⟨hs.tables, ?_, fun key a => s.session.get_eq_iff hwhole.1, fun hknown a =>
    hs.facts_eq_iff hwhole.2 hknown, fun hmissed => hs.facts_of_saw hmissed.1 hmissed.2, ?_⟩
  · rw [hs.tables]
    exact d.rows_after events
  · intro before e behind hevents hfails t
    have ht : Follows d (before ++ behind) t := follows_after path d (before ++ behind)
    have htables : t.tables = s.tables := by
      have hsame := (follows_after path d before).after_of_fails hfails
      rw [ht.tables, hs.tables, hevents, List.append_cons, Database.after_append d before,
        Database.after_append d (before ++ [e]), hsame]
    refine ⟨htables, fun key => ?_, hs.facts_eq_facts_iff ht htables hwhole.2⟩
    rw [tile, tile, Session.get_database, Session.get_database, htables]

/-- A read of a table that has gone, which fails, and what it takes with it. -/
theorem answers_exact_dropped :
    let d : Database := { tiles := some [], facts := some [⟨.text "name", .text "x"⟩] }
    let events : List Event := [.readFacts, .change (.drop .facts), .readFacts]
    let s := (opened "world" d).after events
    let t := (opened "world" d).after [.readFacts, .change (.drop .facts)]
    t.Fails .readFacts ∧ t.tables = s.tables ∧ (∀ key, t.tile key = s.tile key) ∧
      (∀ key, s.tile key = .error (.notFound key)) ∧
      t.facts = .error (.io "no such table: metadata") ∧ s.facts = .ok .empty := by
  intro d events s t
  have hfails : t.Fails .readFacts := ⟨_, rfl⟩
  obtain ⟨-, -, htile, -, -, hfailed⟩ := answers_exact "world" d.tiles d.facts events
  obtain ⟨htables, hsame, -⟩ := hfailed [.readFacts, .change (.drop .facts)] .readFacts [] rfl hfails
  exact ⟨hfails, htables, hsame, fun key => (htile key _).2 (.absent rfl (List.forall_mem_nil _)),
    rfl, rfl⟩

/-- **The metadata are not always none when their table is missing**: right after the table that was
read has gone, a session reports it as missing. Only the read after that gives none, from the same
tables. -/
theorem not_givesFacts_dropped :
    let d : Database := { tiles := some [], facts := some [⟨.text "name", .text "x"⟩] }
    let s := (opened "world" d).after [.readFacts, .change (.drop .facts)]
    s.tables.facts = none ∧ s.facts = .error (.io "no such table: metadata") ∧
      ¬s.tables.GivesFacts s.facts ∧
      (s.next .readFacts).tables = s.tables ∧ (s.next .readFacts).facts = .ok .empty := by
  intro d s
  refine ⟨rfl, rfl, fun h => ?_, rfl, rfl⟩
  cases h.eq_empty rfl

end Course

end TileScope.Archive
