import TileScope.Proofs.Gzip.Limit
import TileScope.Proofs.Scan.Outcome

/-!
# Envelopes in a scan

A payload within the limit may be stored as it is or as a gzip member with stored blocks, with
anything behind it. A scan does not tell the two apart, but for the size that is stored
(`Store.scan_enveloped`):

| payload | stored as it is | stored as a member |
| --- | --- | --- |
| not like a member | its outcome | the same outcome, with the size of what is stored |
| like a member | an envelope is removed from it | its outcome: one envelope is removed, not two |

Nothing behind the envelope looks at the stored bytes: the outcome is a function of the payload, the
query and the stored size (`Outcome.ofPayload`).
-/

namespace TileScope

/-- What comes of a payload out of its envelope. -/
def Outcome.ofPayload (query : Query) (stored : Nat) (payload : ByteArray) : Outcome :=
  match Tile.decode (octets payload) with
  | .error e => .failed (.decode e)
  | .ok tile => .scanned (ScannedTile.search query ⟨tile, stored, payload.size⟩)

/-- An outcome with another stored size. -/
def Outcome.storedIn (stored : Nat) : Outcome → Outcome
  | .scanned tile => .scanned { tile with storedBytes := stored }
  | o => o

/-- Outcomes of one payload differ by the stored size alone. -/
theorem Outcome.storedIn_ofPayload (query : Query) (stored other : Nat) (payload : ByteArray) :
    (ofPayload query other payload).storedIn stored = ofPayload query stored payload := by
  rw [ofPayload, ofPayload]
  cases Tile.decode (octets payload) <;> rfl

/-- The envelope of a member is removed, and no other. -/
theorem unwrapEnvelope_member (m : Gzip.StoredMember) (h : m.payload.length ≤ maxInflated)
    (rest : List UInt8) :
    unwrapEnvelope (ofOctets (m.written ++ rest)) = .ok (.inflated (ofOctets m.payload)) := by
  have hunpack := m.unpack_written h rest
  rw [Gzip.StoredMember.written, List.append_assoc, List.append_assoc] at hunpack ⊢
  rw [unwrapEnvelope_written, hunpack]
  rfl

namespace Store

variable {s : Store} {key : TileKey}

/-- What comes of a tile whose envelope can be removed. -/
theorem scanTile_of_unwrap {stored : ByteArray} {payload : Payload}
    (hget : s.get key = .ok stored) (h : unwrapEnvelope stored = .ok payload) (query : Query) :
    s.scanTile false query key = .ofPayload query stored.size payload.bytes := by
  rw [scanTile, if_neg Bool.false_ne_true, load_of_get hget, h, Outcome.ofPayload]
  dsimp only
  cases Tile.decode (octets payload.bytes) <;> rfl

/-- **The envelope does not show.** A payload within the limit is what is left of any of its
members, whatever follows the member, and the outcome of a store that has the member is that of the
payload. Where the payload is not like a member, a store that has the payload itself gives the same
outcome, with its own stored size. -/
theorem scan_enveloped {p : ByteArray} {m : Gzip.StoredMember} (hm : m.payload = octets p)
    (hp : p.size ≤ maxInflated) (trailing : List UInt8) :
    let g := ofOctets (m.written ++ trailing)
    unwrapEnvelope g = .ok (.inflated p) ∧
    ∀ (packed : Store) (key : TileKey) (keys : List TileKey) (query : Query), key ∈ keys →
      packed.get key = .ok g →
      (packed.scan false keys query).outcomes.get? key = some (.ofPayload query g.size p) ∧
      ∀ plain : Store, plain.get key = .ok p → isGzip p = false →
        ∃ o, o = .ofPayload query p.size p ∧
          (plain.scan false keys query).outcomes.get? key = some o ∧
          (packed.scan false keys query).outcomes.get? key = some (o.storedIn g.size) := by
  intro g
  have hunwrap : unwrapEnvelope g = .ok (.inflated p) := by
    have hlength : m.payload.length ≤ maxInflated := by rw [hm, length_octets]; exact hp
    rw [unwrapEnvelope_member m hlength, hm, ofOctets_octets]
  refine ⟨hunwrap, fun packed key keys query hkey hpacked => ?_⟩
  have hscan : (packed.scan false keys query).outcomes.get? key
      = some (.ofPayload query g.size p) := by
    rw [get?_outcomes_of_mem packed false query hkey, scanTile_of_unwrap hpacked hunwrap]
    rfl
  refine ⟨hscan, fun plain hplain hgzip => ⟨_, rfl, ?_, ?_⟩⟩
  · have hsame : unwrapEnvelope p = .ok (.plain p) := by
      rw [unwrapEnvelope, hgzip, if_neg Bool.false_ne_true]
    rw [get?_outcomes_of_mem plain false query hkey, scanTile_of_unwrap hplain hsame]
    rfl
  · rw [hscan, Outcome.storedIn_ofPayload]

end Store

section Labelled

/-- A member with every field of the header, its bytes in three blocks of which one is empty. -/
def labelledMember : Gzip.StoredMember where
  header :=
    { isText := true
      origin := #v[1, 2, 3, 4, 0, 255]
      extra := some ⟨[0, 31, 139], by decide⟩
      name := some ⟨[109, 97, 112], by decide, by decide⟩
      comment := some ⟨[], by decide, by decide⟩
      isChecked := true }
  stream :=
    { front := [⟨[0x1a, 0x05, 0x0a], 0, by decide⟩, ⟨[], 31, by decide⟩]
      last := ⟨[0x01, 0x61, 0x78, 0x02], 7, by decide⟩ }

/-- A tile with one layer, as it is and in a member with the start of another one behind it. -/
theorem scan_enveloped_labelledMember :
    let p := ofOctets [0x1a, 0x05, 0x0a, 0x01, 0x61, 0x78, 0x02]
    let g := ofOctets (labelledMember.written ++ [0x1f, 0x8b])
    let holding (bytes : ByteArray) : Store :=
      { get := fun _ => .ok bytes, description := "one tile", metadata := .ok .empty }
    let world : TileKey := ⟨0, 0, 0, by decide, by decide, by decide⟩
    let o := Outcome.scanned ⟨⟨⟨.ofList [("a", ⟨2, 4096, #[]⟩)]⟩, 7, 7⟩, .empty⟩
    unwrapEnvelope g = .ok (.inflated p) ∧
      ((holding p).scan false [world] {}).outcomes.get? world = some o ∧
      ((holding g).scan false [world] {}).outcomes.get? world = some (o.storedIn g.size) := by
  intro p g holding world o
  have hp : p.size = 7 := by decide
  have hdecode : Tile.decode (octets p) = .ok ⟨.ofList [("a", ⟨2, 4096, #[]⟩)]⟩ := by
    rw [octets_ofOctets]
    cbv
  obtain ⟨hunwrap, hscan⟩ := Store.scan_enveloped (p := p) (m := labelledMember)
    (octets_ofOctets _).symm (by rw [hp]; decide) [0x1f, 0x8b]
  obtain ⟨-, hplain⟩ := hscan (holding g) world [world] {} List.mem_cons_self rfl
  obtain ⟨o', ho', hplain, hpacked⟩ := hplain (holding p) rfl (by decide)
  have hsame : o' = o := by
    rw [ho', Outcome.ofPayload, hdecode, hp]
    rfl
  exact ⟨hunwrap, hsame ▸ hplain, hsame ▸ hpacked⟩

end Labelled

end TileScope
