import TileScope.Envelope
import TileScope.Grid.Window
import TileScope.Search.Query
import TileScope.Store.Basic
import TileScope.Tile.Decode

/-!
# Scans

A scan runs one search over several tiles of a store. Each tile is taken on its own: it is fetched,
its envelope is removed, it is decoded and searched. What comes of it is the tile's outcome, and
one tile that fails does not keep the others from being searched.

| outcome | when |
| --- | --- |
| scanned | the tile decodes |
| absent | the store has no such tile |
| failed | anything else goes wrong |
| skipped | the scan was cancelled before |
-/

namespace TileScope

/-- Why a tile cannot be searched. -/
inductive TileError where
  | store (e : StoreError)
  | envelope (e : EnvelopeError)
  | decode (e : DecodeError)
deriving DecidableEq, Repr

/-- The wording of a tile error: that of its cause. -/
def TileError.message : TileError → String
  | .store e => e.message
  | .envelope e => EnvelopeError.message e
  | .decode e => e.message

/-- A tile out of a store. -/
structure LoadedTile where
  tile : Tile
  /-- The size of the payload as it is stored. -/
  storedBytes : Nat
  /-- The size of the payload out of its envelope. -/
  payloadBytes : Nat
deriving DecidableEq, Repr

/-- Fetches a tile, removes its envelope and decodes it. -/
def Store.load (store : Store) (key : TileKey) : Except TileError LoadedTile := do
  let stored ← (store.get key).mapError .store
  let payload ← (unwrapEnvelope stored).mapError .envelope
  let tile ← (Tile.decode (octets payload.bytes)).mapError .decode
  return ⟨tile, stored.size, payload.bytes.size⟩

/-- A tile that was searched: the tile, and by layer the places of the features found. -/
structure ScannedTile extends LoadedTile where
  hits : OrderedMap String (List Nat)
deriving DecidableEq, Repr

namespace ScannedTile

/-- Searches a tile. -/
def search (query : Query) (loaded : LoadedTile) : ScannedTile :=
  { loaded with
    hits := (query.run loaded.tile).mapEntries fun _ matched => some (matched.map (·.index)) }

/-- The features found, by layer. -/
def found (s : ScannedTile) : LayerMatches :=
  s.hits.mapEntries fun name indices =>
    (s.tile.layers.get? name).map fun layer =>
      indices.filterMap fun i => layer.features[i]?.map fun f => ⟨i, f⟩

/-- The number of features found. -/
def matchCount (s : ScannedTile) : Nat := s.hits.values.flatten.length

end ScannedTile

/-- What came of a tile. -/
inductive Outcome where
  | scanned (tile : ScannedTile)
  | absent
  | failed (e : TileError)
  | skipped
deriving DecidableEq, Repr

/-- One line about an outcome. -/
def Outcome.status : Outcome → String
  | .scanned tile => if tile.matchCount = 1 then "1 match" else s!"{tile.matchCount} matches"
  | .absent => "not present in source"
  | .failed e => s!"tile unavailable: {e.message}"
  | .skipped => "skipped (scan cancelled)"

/-- Looks for a query in one tile of a store. -/
def Store.scanTile (store : Store) (cancelled : Bool) (query : Query) (key : TileKey) : Outcome :=
  if cancelled then .skipped
  else
    match store.load key with
    | .ok loaded => .scanned (ScannedTile.search query loaded)
    | .error (.store (.notFound _)) => .absent
    | .error e => .failed e

/-- The outcome of every tile of a scan. -/
structure Report where
  source : String
  metadata : Metadata
  outcomes : OrderedMap TileKey Outcome

/-- Scans tiles of a store. A key that comes twice is scanned once. Metadata are for information:
if the store cannot give them, the report has none. -/
def Store.scan (store : Store) (cancelled : Bool) (keys : List TileKey) (query : Query) : Report :=
  { source := store.description
    metadata := match store.metadata with
      | .ok metadata => metadata
      | .error _ => .empty
    outcomes := (OrderedSet.ofList keys).mapTo (store.scanTile cancelled query) }

namespace Report

/-- The tiles that were searched. -/
def scanned (r : Report) : OrderedMap TileKey ScannedTile :=
  r.outcomes.mapEntries fun _ outcome =>
    match outcome with
    | .scanned tile => some tile
    | _ => none

/-- The features found in each tile that was searched, also where there are none. -/
def found (r : Report) : OrderedMap TileKey LayerMatches :=
  r.scanned.mapEntries fun _ tile => some tile.found

/-- The number of features found. -/
def totalMatches (r : Report) : Nat :=
  r.scanned.values.foldl (fun count tile => count + tile.matchCount) 0

/-- The tiles that failed, with the reason. -/
def failures (r : Report) : OrderedMap TileKey TileError :=
  r.outcomes.mapEntries fun _ outcome =>
    match outcome with
    | .failed e => some e
    | _ => none

/-- The tiles that the store does not have. -/
def absent (r : Report) : List TileKey :=
  (r.outcomes.mapEntries fun _ outcome =>
    match outcome with
    | .absent => some ()
    | _ => none).keys

end Report

/-- A search around one tile. -/
structure ScanRequest where
  center : TileKey
  query : Query
  includeNeighbors : Bool := false

/-- The tiles that a request covers, in key order. -/
def ScanRequest.keys (r : ScanRequest) : List TileKey :=
  if r.includeNeighbors then r.center.window.toList else [r.center]

/-- Searches the tile of a request, or its whole window. -/
def Store.scanRequest (store : Store) (cancelled : Bool) (r : ScanRequest) : Report :=
  store.scan cancelled r.keys r.query

end TileScope
