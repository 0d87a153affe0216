import TileScope.Message.Reader
import TileScope.Proofs.Wire.Skip

/-!
# Tile messages are framed

What a message type does with a field is framed for every field and every state, so a payload is
read exactly when it is a row of fields of a tile (`readTile_eq_ok_iff`), and fails exactly at a
field behind such a row (`readTile_eq_error_iff`). A fault that more bytes could not mend stays the
same fault whatever follows (`readTile_fault`).
-/

namespace TileScope

open Wire Wire.Read

/-- The fields of a value are framed. -/
theorem ValueMessage.framed_merge (k : Key) (m : ValueMessage) : (merge k m).Framed := by
  unfold merge
  split
  · exact ((framed_text.typed _ _).map _).inField _
  · exact (((framed_fixed 3).typed _ _).map _).inField _
  · exact (((framed_fixed 7).typed _ _).map _).inField _
  · exact ((framed_varint.typed _ _).map _).inField _
  · exact ((framed_varint.typed _ _).map _).inField _
  · exact ((framed_varint.typed _ _).map _).inField _
  · exact ((framed_varint.typed _ _).map _).inField _
  · exact (framed_skipValue _ k).map _

/-- The fields of a feature are framed. -/
theorem FeatureMessage.framed_merge (k : Key) (m : FeatureMessage) : (merge k m).Framed := by
  unfold merge
  split
  · exact ((framed_varint.typed _ _).map _).inField _
  · exact ((framed_packed _ _).map _).inField _
  · exact ((framed_varint.typed _ _).map _).inField _
  · exact ((framed_packed _ _).map _).inField _
  · exact (framed_skipValue _ k).map _

/-- The fields of a layer are framed. -/
theorem LayerMessage.framed_merge (k : Key) (m : LayerMessage) : (merge k m).Framed := by
  unfold merge
  split
  · exact ((framed_varint.typed _ _).map _).inField _
  · exact ((framed_text.typed _ _).map _).inField _
  · exact ((framed_message FeatureMessage.framed_merge _ _).map _).inField _
  · exact ((framed_text.typed _ _).map _).inField _
  · exact ((framed_message ValueMessage.framed_merge _ _).map _).inField _
  · exact ((framed_varint.typed _ _).map _).inField _
  · exact (framed_skipValue _ k).map _

/-- The fields of a tile are framed, without their keys. -/
theorem framed_mergeTile (k : Key) (layers : Array LayerMessage) :
    (mergeTile k layers).Framed := by
  unfold mergeTile
  split
  · exact ((framed_message LayerMessage.framed_merge _ _).map _).inField _
  · exact (framed_skipValue _ k).map _

/-- A field of a tile, onto the layers read before it. -/
abbrev tileField : Array LayerMessage → Read (Array LayerMessage) := field mergeTile

/-- The fields of a tile are framed. -/
theorem framed_tileField (layers : Array LayerMessage) : (tileField layers).Framed :=
  framed_field framed_mergeTile layers

/-- A payload is read as a loop over fields down to its end. -/
theorem readTile_eq (b : List UInt8) :
    readTile b = match runLoop tileField 0 #[] b with
      | .error e => .error e
      | .ok (layers, _) => .ok layers := by
  unfold readTile runLoop
  simp only
  cases loop tileField 0 ((Input.ofBytes b).length + 1) #[] (.ofBytes b) (Input.length_lt_succ _) <;>
    rfl

/-- **What a payload looks like:** a row of fields. -/
theorem readTile_eq_ok_iff {b : List UInt8} {layers : Array LayerMessage} :
    readTile b = .ok layers ↔ Row tileField #[] b layers := by
  constructor
  · intro h
    rw [readTile_eq] at h
    cases hr : runLoop tileField 0 #[] b with
    | error e => simp [hr] at h
    | ok a =>
      simp only [hr, Except.ok.injEq] at h
      obtain ⟨c, hc, hl, hrow⟩ := (runLoop_eq_ok_iff framed_tileField).1 hr
      rw [List.length_eq_zero_iff.1 hl, List.append_nil] at hc
      rwa [hc, ← h]
  · intro h
    have hr : runLoop tileField 0 #[] b = .ok (layers, []) :=
      (runLoop_eq_ok_iff framed_tileField).2 ⟨b, (List.append_nil b).symm, rfl, h⟩
    rw [readTile_eq, hr]

/-- **Where reading a payload fails:** behind a row of fields, at a field that cannot be read. -/
theorem readTile_eq_error_iff {b : List UInt8} {f : Fault} :
    readTile b = .error f ↔
      ∃ c t layers, b = c ++ t ∧ t ≠ [] ∧ Row tileField #[] c layers ∧
        (tileField layers).run t = .error f := by
  constructor
  · intro h
    rw [readTile_eq] at h
    cases hr : runLoop tileField 0 #[] b with
    | error e =>
      simp only [hr, Except.error.injEq] at h
      exact runLoop_zero_eq_error framed_tileField (h ▸ hr)
    | ok a => simp [hr] at h
  · rintro ⟨c, t, layers, rfl, ht, h, hf⟩
    have hpos : ¬ t.length ≤ 0 := Nat.not_le.2 (List.length_pos_iff.2 ht)
    rw [readTile_eq, h.run (Nat.zero_le _), runLoop_eq, if_neg hpos, hf]

/-- A fault that is no broken varint and no underflow stays, whatever follows. -/
theorem readTile_fault {b : List UInt8} {f : Fault} (h : readTile b = .error f)
    (hv : f.cause ≠ .varint) (hu : f.cause ≠ .underflow) (rest : List UInt8) :
    readTile (b ++ rest) = .error f := by
  obtain ⟨c, t, layers, rfl, ht, hrow, hf⟩ := readTile_eq_error_iff.1 h
  refine readTile_eq_error_iff.2 ⟨c, t ++ rest, layers, List.append_assoc .., ?_, hrow, ?_⟩
  · exact fun hn => ht (List.append_eq_nil_iff.1 hn).1
  · exact (framed_tileField layers).fault hf hv hu rest

/-- Behind the key of a layer, its length and its fields are read. -/
theorem run_tileField_layer {c : List UInt8} (h : key.Forms c ⟨3, .delimited⟩)
    (layers : Array LayerMessage) (b : List UInt8) :
    (tileField layers).run (c ++ b) = match (block (field LayerMessage.merge) {}).run b with
      | .error e => .error (e.within FieldNames.layers)
      | .ok (layer, r) => .ok (layers.push layer, r) := by
  rw [tileField, field, run_andThen, h b]
  show run (((message LayerMessage.merge {} .delimited).map layers.push).inField
    FieldNames.layers) b = _
  rw [run_inField, run_map, message, typed, if_pos rfl]
  cases (block (field LayerMessage.merge) {}).run b <;> rfl

end TileScope
