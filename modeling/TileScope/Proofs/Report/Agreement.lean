import TileScope.Proofs.Report.Wording
import TileScope.Proofs.Scan.Hits
import TileScope.Report.Inspection
import TileScope.Report.ScanJson

/-!
# Two forms of one report

A scan is reported as text, for people, or as JSON, for programs. The two walk over the report by
themselves and count by different accessors, but they say the same (`Report.inspection_agrees`):

| text | JSON |
| --- | --- |
| a status line for each tile, in the order of keys | an entry of `tiles` each, in the same order |
| "1 match" or "n matches" | status `scanned` |
| "not present in source" | status `not_found` |
| "tile unavailable: e" | status `failed`, with the error e |
| "skipped (scan cancelled)" | status `skipped` |
| a line for each feature found, as many as the status line says | an element of `matches`, with the same id, kind, place and name |
| the counts of the last line | `total_matches`, the number of elements, of entries by status |

What a form says is read off its lines or its fields alone (`FormsAgree`), not off the report. It
takes reports whose tiles were searched, as those of all scans are.
-/

namespace TileScope

/-! ## What the forms say -/

namespace Json

/-- The status that an entry of a report names. -/
def status? (entry : Json) : Option String := (entry.field? "status").bind text?

/-- The matches of an entry of a report, by layer. -/
def matchArrays (entry : Json) : List (String × List Json) :=
  ((entry.field? "matches").elim [] fields).map fun e => (e.1, e.2.items)

end Json

/-- How a status line says that a number of features was found. -/
def matchPhrase (n : Nat) : String := if n = 1 then "1 match" else s!"{n} matches"

/-- A line and an element of the matches under a layer are about one match: the line tells the
feature, and the element has the place of the match, its feature and its point. -/
structure Match.Forms (m : Match) (layer line : String) (element : Json) : Prop where
  line : ∃ told, m.feature.Told told ∧ line = s!"  [{layer}] {told}"
  shown : element.ShowsMatch m
  whole : element = Json.ofMatch m

/-- What the two forms of a report say about one tile. -/
structure TilePart where
  key : TileKey
  /-- What the status line says behind the key. -/
  status : String
  /-- The lines below the status line. -/
  hits : List String
  /-- The entry of the JSON form. -/
  entry : Json

namespace TilePart

/-- The lines of the text form. -/
def lines (p : TilePart) : List String := s!"{p.key}  {p.status}" :: p.hits

/-- The two forms say the same about the tile. -/
structure Agrees (p : TilePart) : Prop where
  tile : p.entry.field? "tile" = some (.text p.key.render)
  known : p.entry.status? ∈ [some "scanned", some "not_found", some "failed", some "skipped"]
  scanned : p.entry.status? = some "scanned" ↔ ∃ n, p.status = matchPhrase n
  absent : p.entry.status? = some "not_found" ↔ p.status = "not present in source"
  failed : p.entry.status? = some "failed" ↔ ∃ e : String, p.status = s!"tile unavailable: {e}"
  skipped : p.entry.status? = some "skipped" ↔ p.status = "skipped (scan cancelled)"
  error : ∀ e : String, p.entry.field? "error" = some (.text e) ↔
    p.status = s!"tile unavailable: {e}"
  /-- The status line counts the lines below it. -/
  count : p.entry.status? = some "scanned" → p.status = matchPhrase p.hits.length
  /-- A line below the status line, and an element of the matches under the same layer, are about
  one match. -/
  hits : List.Forall₂
    (fun line (layered : String × Json) => ∃ m : Match, m.Forms layered.1 line layered.2)
    p.hits (p.entry.matchArrays.flatMap fun a => a.2.map fun element => (a.1, element))

end TilePart

/-- Lines and a JSON value say the same about a scan of tiles. -/
def FormsAgree (keys : List TileKey) (lines : List String) (json : Json) : Prop :=
  ∃ (parts : List TilePart) (header : List String) (total : Nat),
    let entries := parts.map (·.entry)
    let number (status : String) : Nat := entries.countP (·.status? = some status)
    let scanned := number "scanned"
    let absent := number "not_found"
    let failed := number "failed"
    let noun := if total = 1 then "match" else "matches"
    let last := s!"{total} {noun} in {scanned} tile(s); {absent} absent, {failed} unavailable"
    parts.map (·.key) = keys ∧ (∀ p ∈ parts, p.Agrees) ∧
    header.length = 3 ∧ lines = header ++ parts.flatMap TilePart.lines ++ ["", last] ∧
    json.field? "tiles" = some (.array entries) ∧
    json.field? "total_matches" = some (.count total) ∧
    total = (entries.map fun entry => (entry.matchArrays.map (·.2.length)).sum).sum ∧
    ((∀ entry ∈ entries, entry.status? ≠ some "skipped") →
      scanned + absent + failed = parts.length)

/-! ## The JSON form of a tile -/

namespace Json

section Entries

variable (key : TileKey) (o : Outcome)

/-- An entry names its tile. -/
theorem tile_ofOutcome : (ofOutcome false key o).field? "tile" = some (.text key.render) := by
  rw [ofOutcome.eq_def, field?_record (by cases o <;> simp)]
  cases o <;> rfl

/-- An entry names its status. -/
theorem status?_ofOutcome : (ofOutcome false key o).status? = some (statusName o) := by
  rw [status?, ofOutcome.eq_def, field?_record (by cases o <;> simp)]
  cases o <;> rfl

/-- An entry has an error if the tile failed, and it is the message. -/
theorem error_ofOutcome : (ofOutcome false key o).field? "error" = match o with
    | .failed e => some (.text e.message)
    | _ => none := by
  rw [ofOutcome.eq_def, field?_record (by cases o <;> simp)]
  cases o <;> rfl

/-- An entry has the matches by layer if the tile was scanned. -/
theorem matchArrays_ofOutcome : (ofOutcome false key o).matchArrays = match o with
    | .scanned tile => tile.found.entries.map fun (layer, hits) => (layer, hits.map ofMatch)
    | _ => [] := by
  rw [matchArrays, ofOutcome.eq_def, field?_record (by cases o <;> simp)]
  cases o with
  | scanned tile =>
    show ((ofMatches tile.found).fields.map fun e => (e.1, e.2.items)) = _
    rw [ofMatches, Json.fields, List.map_map]
    rfl
  | _ => rfl

/-- The scanned tiles are those of that status. -/
theorem statusName_eq_scanned_iff {o : Outcome} :
    statusName o = "scanned" ↔ ∃ tile, o = .scanned tile := by
  cases o <;> simp [statusName]

/-- The absent tiles are those of that status. -/
theorem statusName_eq_absent_iff {o : Outcome} : statusName o = "not_found" ↔ o = .absent := by
  cases o <;> simp [statusName]

/-- The tiles that failed are those of that status. -/
theorem statusName_eq_failed_iff {o : Outcome} :
    statusName o = "failed" ↔ ∃ e, o = .failed e := by
  cases o <;> simp [statusName]

/-- The skipped tiles are those of that status. -/
theorem statusName_eq_skipped_iff {o : Outcome} : statusName o = "skipped" ↔ o = .skipped := by
  cases o <;> simp [statusName]

end Entries

end Json

/-! ## Status lines -/

section Status

variable {o : Outcome}

/-- The name of the status that a status line is about, told by its first character. -/
def statusNameOf (phrase : String) : String :=
  match phrase.toList.head? with
  | some 'n' => "not_found"
  | some 't' => "failed"
  | some 's' => "skipped"
  | _ => "scanned"

/-- A phrase that begins with a digit is of a scanned tile. -/
theorem statusNameOf_of_isDigit {phrase : String} {c : Char} (h : phrase.toList.head? = some c)
    (hc : c.isDigit = true) : statusNameOf phrase = "scanned" := by
  rw [statusNameOf, h]
  split
  · next heq => cases heq; cases hc
  · next heq => cases heq; cases hc
  · next heq => cases heq; cases hc
  · rfl

/-- The number of matches is the phrase of a scanned tile. -/
theorem statusNameOf_matchPhrase (n : Nat) : statusNameOf (matchPhrase n) = "scanned" := by
  rw [matchPhrase]
  split
  · decide
  · cases hdigits : Nat.toDigits 10 n with
    | nil => exact absurd hdigits Nat.toDigits_ne_nil
    | cons c rest =>
      have hc : c ∈ Nat.toDigits 10 n := hdigits ▸ List.mem_cons_self
      refine statusNameOf_of_isDigit (c := c) ?_ (Nat.isDigit_of_mem_toDigits (by decide)
        (by decide) hc)
      simp [String.toList_append, hdigits]

/-- The phrase with an error is of a tile that failed. -/
theorem statusNameOf_unavailable (e : String) :
    statusNameOf s!"tile unavailable: {e}" = "failed" := by
  have hhead : (s!"tile unavailable: {e}").toList.head? = some 't' := by
    have hlead : (toString "tile unavailable: ").toList = 't' :: "ile unavailable: ".toList := by
      decide
    simp [String.toList_append, hlead]
  rw [statusNameOf, hhead]
  rfl

/-- The status of a tile in JSON can be read off its status line. -/
theorem statusNameOf_status (o : Outcome) : statusNameOf o.status = Json.statusName o := by
  cases o with
  | scanned tile => exact statusNameOf_matchPhrase tile.matchCount
  | failed e => exact statusNameOf_unavailable e.message
  | absent => decide
  | skipped => decide

/-- A status line says that features were found just if the tile was searched. -/
theorem exists_matchPhrase_iff :
    (∃ n, o.status = matchPhrase n) ↔ Json.statusName o = "scanned" := by
  constructor
  · rintro ⟨n, h⟩
    rw [← statusNameOf_status, h, statusNameOf_matchPhrase]
  · intro h
    obtain ⟨tile, rfl⟩ := Json.statusName_eq_scanned_iff.1 h
    exact ⟨tile.matchCount, rfl⟩

/-- The line and the entry say of the same tiles that they are absent. -/
theorem status_eq_absent_iff :
    o.status = "not present in source" ↔ Json.statusName o = "not_found" := by
  constructor
  · intro h
    rw [← statusNameOf_status, h]
    decide
  · intro h
    obtain rfl := Json.statusName_eq_absent_iff.1 h
    rfl

/-- The line and the entry say of the same tiles that they were skipped. -/
theorem status_eq_skipped_iff :
    o.status = "skipped (scan cancelled)" ↔ Json.statusName o = "skipped" := by
  constructor
  · intro h
    rw [← statusNameOf_status, h]
    decide
  · intro h
    obtain rfl := Json.statusName_eq_skipped_iff.1 h
    rfl

/-- A line says that a tile failed with the message of its error. -/
theorem status_eq_unavailable_iff {e : String} :
    o.status = s!"tile unavailable: {e}" ↔ ∃ cause, o = .failed cause ∧ cause.message = e := by
  constructor
  · intro h
    have hname := statusNameOf_status o
    rw [h, statusNameOf_unavailable] at hname
    obtain ⟨cause, rfl⟩ := Json.statusName_eq_failed_iff.1 hname.symm
    have hsame : s!"tile unavailable: {cause.message}" = s!"tile unavailable: {e}" := h
    rw [String.append_right_inj] at hsame
    exact ⟨cause, rfl, hsame⟩
  · rintro ⟨cause, rfl, rfl⟩
    rfl

end Status

/-! ## One tile -/

namespace LayerMatches

/-- The lines of what was found are one a match, by layer. -/
theorem lines_eq (found : LayerMatches) :
    found.lines = found.listed.map fun p => .hit p.1 p.2.feature := by
  rw [lines, listed, List.map_flatMap]
  simp only [List.map_map, Function.comp_def]

/-- The elements of the arrays of matches are the matches. -/
theorem elements_eq (found : LayerMatches) :
    (found.entries.map fun e => (e.1, e.2.map Json.ofMatch)).flatMap
      (fun a => a.2.map fun element => (a.1, element))
      = found.listed.map fun p => (p.1, Json.ofMatch p.2) := by
  rw [listed, List.map_flatMap, List.flatMap_map]
  simp only [List.map_map, Function.comp_def]

end LayerMatches

namespace Outcome

/-- What the two forms say about a tile. -/
def part (key : TileKey) (o : Outcome) : TilePart where
  key := key
  status := o.status
  hits := (o.lines false key).tail.map Line.text
  entry := Json.ofOutcome false key o

variable {key : TileKey} {o : Outcome}

/-- A scanned tile has its status in a line and then its matches. -/
theorem lines_scanned (key : TileKey) (tile : ScannedTile) : (scanned tile).lines false key
    = .status key (.scanned tile) :: tile.found.listed.map fun m => .hit m.1 m.2.feature := by
  rw [← LayerMatches.lines_eq]
  exact congrArg _ (List.append_nil _)

/-- The lines of a part are those of the tile. -/
theorem lines_part (key : TileKey) (o : Outcome) :
    (o.part key).lines = (o.lines false key).map Line.text := by
  cases o <;> rfl

/-- The lines of matches are one a match, by layer. -/
theorem hits_part_scanned (key : TileKey) (tile : ScannedTile) : ((scanned tile).part key).hits
    = tile.found.listed.map fun p => (Line.hit p.1 p.2.feature).text := by
  rw [part, lines_scanned, List.tail_cons, List.map_map]
  rfl

/-- The number of matches in the entry of a tile. -/
theorem sum_matchArrays (key : TileKey) (o : Outcome) :
    ((Json.ofOutcome false key o).matchArrays.map (·.2.length)).sum = match o with
      | .scanned tile => tile.found.total
      | _ => 0 := by
  rw [Json.matchArrays_ofOutcome]
  cases o with
  | scanned tile =>
    dsimp only
    rw [LayerMatches.total_eq_sum, OrderedMap.values, List.map_map, List.map_map]
    simp only [Function.comp_def, List.length_map]
  | _ => rfl

/-- A match is told by its line and shown by its element. -/
theorem forms_hit (layer : String) (m : Match) :
    m.Forms layer (Line.hit layer m.feature).text (Json.ofMatch m) :=
  ⟨⟨m.feature.summary, m.feature.told_summary, rfl⟩, Json.showsMatch_ofMatch m, rfl⟩

/-- The two forms list the same features of a tile. -/
theorem forall₂_hits_part (key : TileKey) (o : Outcome) : List.Forall₂
    (fun line (layered : String × Json) => ∃ m : Match, m.Forms layered.1 line layered.2)
    (o.part key).hits ((o.part key).entry.matchArrays.flatMap fun a =>
      a.2.map fun element => (a.1, element)) := by
  have helements := Json.matchArrays_ofOutcome key o
  cases o with
  | scanned tile =>
    rw [hits_part_scanned, part, helements, LayerMatches.elements_eq, List.forall₂_map_left_iff,
      List.forall₂_map_right_iff, List.forall₂_same]
    exact fun p _ => ⟨p.2, forms_hit p.1 p.2⟩
  | _ =>
    rw [part, helements]
    exact .nil

/-- The two forms say the same about a tile whose count is that of what it lists. -/
theorem agrees_part (h : ∀ tile, o = .scanned tile → tile.matchCount = tile.found.total) :
    (o.part key).Agrees := by
  have hstatus : (o.part key).entry.status? = some (Json.statusName o) := Json.status?_ofOutcome key o
  refine ⟨Json.tile_ofOutcome key o, ?_, ?_, ?_, ?_, ?_, fun e => ?_, fun hscanned => ?_,
    forall₂_hits_part key o⟩
  · rw [hstatus]
    cases o <;> simp [Json.statusName]
  · rw [hstatus, Option.some.injEq]
    exact exists_matchPhrase_iff.symm
  · rw [hstatus, Option.some.injEq]
    exact status_eq_absent_iff.symm
  · rw [hstatus, Option.some.injEq, Json.statusName_eq_failed_iff]
    constructor
    · rintro ⟨cause, rfl⟩
      exact ⟨cause.message, rfl⟩
    · rintro ⟨e, he⟩
      obtain ⟨cause, hcause, -⟩ := status_eq_unavailable_iff.1 he
      exact ⟨cause, hcause⟩
  · rw [hstatus, Option.some.injEq]
    exact status_eq_skipped_iff.symm
  · show (Json.ofOutcome false key o).field? "error" = _ ↔ o.status = _
    rw [Json.error_ofOutcome, status_eq_unavailable_iff]
    cases o <;> simp
  · rw [hstatus, Option.some.injEq, Json.statusName_eq_scanned_iff] at hscanned
    obtain ⟨tile, rfl⟩ := hscanned
    rw [hits_part_scanned, List.length_map, LayerMatches.length_listed, ← h tile rfl]
    rfl

end Outcome

/-! ## The report -/

namespace Report

variable {r : Report}

/-- The parts of a report. -/
def parts (r : Report) : List TilePart := r.outcomes.entries.map fun e => e.2.part e.1

/-- The entries of a status are the tiles of its kind of outcome. -/
theorem countP_status (r : Report) (status : String) :
    (r.parts.map (·.entry)).countP (·.status? = some status)
      = r.outcomes.entries.countP fun e => Json.statusName e.2 = status := by
  rw [parts, List.map_map, List.countP_map]
  refine List.countP_congr fun e _ => ?_
  have hstatus : (e.2.part e.1).entry.status? = some (Json.statusName e.2) :=
    Json.status?_ofOutcome e.1 e.2
  simp [hstatus]

/-- The entries of a status are as many as the tiles that are kept for it. -/
theorem countP_kept {β : Type} {kept : TileKey → Outcome → Option β} {status : String} (r : Report)
    (h : ∀ key o, (kept key o).isSome = true ↔ Json.statusName o = status) :
    (r.parts.map (·.entry)).countP (·.status? = some status)
      = (r.outcomes.mapEntries kept).size := by
  rw [countP_status, OrderedMap.size_mapEntries]
  refine List.countP_congr fun e _ => ?_
  rw [decide_eq_true_eq, h e.1 e.2]

/-- Every tile that is not skipped is counted once. -/
theorem countP_add {entries : List Json} (hknown : ∀ entry ∈ entries,
      entry.status? ∈ [some "scanned", some "not_found", some "failed", some "skipped"])
    (h : ∀ entry ∈ entries, entry.status? ≠ some "skipped") :
    entries.countP (·.status? = some "scanned") + entries.countP (·.status? = some "not_found")
      + entries.countP (·.status? = some "failed") = entries.length := by
  induction entries with
  | nil => rfl
  | cons entry rest ih =>
    obtain ⟨hentry, hknown⟩ := List.forall_mem_cons.1 hknown
    obtain ⟨hne, h⟩ := List.forall_mem_cons.1 h
    have hrest := ih hknown h
    simp only [List.mem_cons, List.not_mem_nil, or_false, hne] at hentry
    rcases hentry with hentry | hentry | hentry <;>
      simp only [List.countP_cons, List.length_cons, hentry] <;> simp <;> omega

/-- The number of matches of a tile is that of the places found. -/
theorem Searched.count_eq (h : r.Searched) {key : TileKey} {tile : ScannedTile}
    (hget : r.outcomes.get? key = some (.scanned tile)) : tile.matchCount = tile.found.total := by
  obtain ⟨query, hquery⟩ := h key tile hget
  rw [hquery.matchCount_eq, hquery.found_eq]

/-- In a report of searched tiles both forms agree about every tile. -/
theorem Searched.agrees_of_mem (h : r.Searched) : ∀ p ∈ r.parts, p.Agrees := by
  intro p hp
  obtain ⟨e, he, rfl⟩ := List.mem_map.1 hp
  refine Outcome.agrees_part fun tile htile => ?_
  have hget : r.outcomes.get? e.1 = some (.scanned tile) := by
    rw [OrderedMap.get?_eq_some_iff, ← htile]
    exact he
  exact h.count_eq hget

/-- The number of matches in all is that of the elements in the entries. -/
theorem Searched.totalMatches_eq_entries (h : r.Searched) : r.totalMatches
    = ((r.parts.map (·.entry)).map fun entry => (entry.matchArrays.map (·.2.length)).sum).sum := by
  rw [totalMatches_eq_sum, scanned, OrderedMap.sum_values_mapEntries, parts, List.map_map,
    List.map_map]
  refine congrArg List.sum (List.map_congr_left fun e he => ?_)
  obtain ⟨key, o⟩ := e
  show _ = ((Json.ofOutcome false key o).matchArrays.map (·.2.length)).sum
  rw [Outcome.sum_matchArrays]
  cases o with
  | scanned tile => exact h.count_eq (OrderedMap.get?_eq_some_iff.2 he)
  | _ => rfl

/-- A report is written as its header, its tiles and its summary. -/
theorem text_inspection (r : Report) (query : Query) (all : Bool) :
    (r.inspection query all).map Line.text
      = [Line.source r.source r.metadata, .search query, .blank].map Line.text
        ++ r.outcomes.entries.flatMap (fun e => (e.2.lines all e.1).map Line.text)
        ++ [Line.blank, r.summary].map Line.text := by
  rw [inspection, List.map_append, List.map_append, List.map_flatMap]

/-- A brief report is written as its header, its parts and its summary. -/
theorem lines_inspection (r : Report) (query : Query) : (r.inspection query false).map Line.text
    = [Line.source r.source r.metadata, .search query, .blank].map Line.text
      ++ r.parts.flatMap TilePart.lines ++ ["", r.summary.text] := by
  rw [text_inspection, parts, List.flatMap_map]
  simp only [Outcome.lines_part]
  rfl

/-- No field of a report is there twice. -/
theorem nodup_ofReport (tiles : List Json) (r : Report) :
    (([("source", Json.text r.source), ("total_matches", Json.count r.totalMatches),
      ("tiles", .array tiles)] ++ Json.metadataField r.metadata).map (·.1)).Nodup := by
  rw [Json.metadataField]
  split <;> simp

/-- The tiles of a report are the entries of its parts. -/
theorem tiles_ofReport (r : Report) :
    (Json.ofReport false r).field? "tiles" = some (.array (r.parts.map (·.entry))) := by
  rw [Json.ofReport, Json.field?_record (nodup_ofReport _ r), parts, List.map_map]
  rfl

/-- A report says the number of matches in all. -/
theorem totalMatches_ofReport (r : Report) :
    (Json.ofReport false r).field? "total_matches" = some (.count r.totalMatches) := by
  rw [Json.ofReport, Json.field?_record (nodup_ofReport _ r)]
  rfl

/-- In a report of searched tiles both forms agree. -/
theorem Searched.formsAgree (h : r.Searched) (query : Query) : FormsAgree r.outcomes.keys
    ((r.inspection query false).map Line.text) (Json.ofReport false r) := by
  refine ⟨r.parts, [Line.source r.source r.metadata, .search query, .blank].map Line.text,
    r.totalMatches, ?_, h.agrees_of_mem, rfl, ?_, r.tiles_ofReport, r.totalMatches_ofReport,
    h.totalMatches_eq_entries, fun hskipped => ?_⟩
  · rw [parts, List.map_map]
    rfl
  · have hscanned : (r.parts.map (·.entry)).countP (·.status? = some "scanned") = r.scanned.size :=
      r.countP_kept fun _ o => by cases o <;> simp [Json.statusName]
    have habsent : (r.parts.map (·.entry)).countP (·.status? = some "not_found")
        = r.absent.length := by
      rw [absent, OrderedMap.keys, List.length_map]
      exact r.countP_kept fun _ o => by cases o <;> simp [Json.statusName]
    have hfailed : (r.parts.map (·.entry)).countP (·.status? = some "failed") = r.failures.size :=
      r.countP_kept fun _ o => by cases o <;> simp [Json.statusName]
    rw [lines_inspection]
    beta_reduce
    rw [hscanned, habsent, hfailed]
    rfl
  · rw [countP_add (fun entry hentry => ?_) hskipped, List.length_map]
    obtain ⟨p, hp, rfl⟩ := List.mem_map.1 hentry
    exact (h.agrees_of_mem p hp).known

/-- **The text and the JSON of a scan say the same.** The tiles of every scan were searched, and for
every report whose tiles were searched, for whatever, and every query: its keys ascend, and the lines
of the inspection and the JSON value agree on each key in this order and on all counts. -/
theorem inspection_agrees : (∀ (s : Store) (cancelled : Bool) (keys : List TileKey) (query : Query),
      (s.scan cancelled keys query).Searched) ∧
    ∀ r : Report, r.Searched → ∀ query : Query,
      r.outcomes.keys.Pairwise (fun a b => compare a b = .lt) ∧
      FormsAgree r.outcomes.keys ((r.inspection query false).map Line.text)
        (Json.ofReport false r) :=
  ⟨Store.searched_scan, fun r h query =>
    ⟨List.Pairwise.map _ (fun _ _ hlt => hlt) r.outcomes.ascending, h.formsAgree query⟩⟩

/-- A report with a tile of each kind of outcome, the first with matches in two layers. -/
theorem inspection_agrees_fourTiles :
    let points : Layer := ⟨2, 4096, #[⟨some 7, .points [⟨3, -1⟩], .empty⟩,
      ⟨some 9, .points [], .empty⟩, ⟨some 7, .lines [], .empty⟩]⟩
    let loaded : LoadedTile := ⟨⟨.ofList [("a", points), ("b", points)]⟩, 40, 60⟩
    let r : Report :=
      { source := "four tiles"
        metadata := .ofList [("name", "sample")]
        outcomes := ⟨[
          (⟨2, 0, 0, by decide, by decide, by decide⟩,
            .scanned (ScannedTile.search { ids := .ofList [7] } loaded)),
          (⟨2, 1, 0, by decide, by decide, by decide⟩, .absent),
          (⟨2, 2, 0, by decide, by decide, by decide⟩, .failed (.store (.io "disk full"))),
          (⟨2, 3, 0, by decide, by decide, by decide⟩, .skipped)], by rw [Ascending]; decide⟩ }
    r.Searched ∧ r.totalMatches = 4 ∧ FormsAgree r.outcomes.keys
      ((r.inspection {} false).map Line.text) (Json.ofReport false r) := by
  intro points loaded r
  have hsearched : r.Searched := by
    intro key tile h
    have hmem := OrderedMap.get?_eq_some_iff.1 h
    simp only [r, List.mem_cons, Prod.mk.injEq, reduceCtorEq, and_false, or_false,
      List.not_mem_nil, Outcome.scanned.injEq] at hmem
    obtain ⟨-, rfl⟩ := hmem
    exact ⟨_, ScannedTile.searchedFor_search _ loaded⟩
  exact ⟨hsearched, by decide +kernel, (inspection_agrees.2 r hsearched {}).2⟩

end Report

end TileScope
