import TileScope.Proofs.Message.Framing
import TileScope.Proofs.Wire.Cut
import TileScope.Tile.Decode

/-!
# Unfinished payloads

A payload that cannot be read is unfinished if more bytes at its end make it readable: it is a row
of fields and a field whose end is missing (`extendable_iff_unfinished`). Decoding tells such a
payload from a broken one by the cause of the fault and the last byte. Whether it tells right
depends on the cause (`classified_iff`):

| cause | reported as truncated | told right |
| --- | --- | --- |
| a stray end of a group | always | never |
| underflow | always | if the payload is unfinished |
| a broken varint | if the last byte asks for more | if it does just for an unfinished payload |
| any other | never | always |
-/

namespace TileScope

open Wire Wire.Read

/-- More bytes at the end make a payload readable. -/
def Extendable (b : List UInt8) : Prop := ∃ s layers, s ≠ [] ∧ readTile (b ++ s) = .ok layers

/-- A key that a field of a tile can have. -/
def OpensField (k : Key) : Prop := if k.tag = 3 then k.wire = .delimited else k.wire ≠ .endGroup

/-- A field of a tile whose end is missing. -/
inductive FieldCut : List UInt8 → Prop where
  /-- The end of the key is missing. -/
  | key {b : List UInt8} (hb : KeyCut OpensField b) : FieldCut b
  /-- The end of a value that is skipped is missing. -/
  | skipped {e b : List UInt8} {k : Key} (he : Wire.key.Forms e k) (htag : k.tag ≠ 3)
    (hb : SkipCut maxDepth k b) : FieldCut (e ++ b)
  /-- The end of the length of a layer is missing. -/
  | length {e b : List UInt8} (he : Wire.key.Forms e ⟨3, .delimited⟩) (hb : Ongoing b)
    (hl : b.length ≤ 9) : FieldCut (e ++ b)
  /-- The end of a layer is missing, and with as many bytes as are missing it can be read. -/
  | body {e l b w : List UInt8} {n : UInt64} {layer : LayerMessage}
    (he : Wire.key.Forms e ⟨3, .delimited⟩) (hl : varint.Forms l n) (hb : b.length < n.toNat)
    (hw : (b ++ w).length = n.toNat) (hrow : Row (field LayerMessage.merge) {} (b ++ w) layer) :
    FieldCut (e ++ (l ++ b))

/-- A payload that ends in the middle of a field, behind fields that can be read. -/
def Unfinished (b : List UInt8) : Prop :=
  ∃ c t layers, b = c ++ t ∧ t ≠ [] ∧ Row tileField #[] c layers ∧ FieldCut t

/-! ## Cut fields -/

section Fields

variable {layers more : Array LayerMessage} {b : List UInt8} {k : Key}

/-- A field that is not a layer is skipped. -/
theorem mergeTile_of_tag_ne (h : k.tag ≠ 3) (layers : Array LayerMessage) :
    mergeTile k layers = Read.map (fun _ => layers) (skipValue maxDepth k) := by
  unfold mergeTile
  split
  · next h' => exact absurd h' h
  · rfl

/-- A layer is behind a key with a length. -/
theorem forms_mergeTile_layer {wire : WireType} (h : (mergeTile ⟨3, wire⟩ layers).Forms b more) :
    wire = .delimited ∧ ∃ layer, (block (field LayerMessage.merge) {}).Forms b layer := by
  by_cases hw : wire = .delimited
  · subst hw
    have h' : (((block (field LayerMessage.merge) {}).map layers.push).inField
      FieldNames.layers).Forms b more := h
    have hframed := framed_block (framed_field LayerMessage.framed_merge) {}
    obtain ⟨layer, hlayer, -⟩ :=
      hframed.forms_map_iff.1 ((hframed.map _).forms_inField_iff.1 h')
    exact ⟨rfl, layer, hlayer⟩
  · have hrun := h.run_self
    have hmerge : mergeTile ⟨3, wire⟩ layers
        = ((Read.fail (.mismatch wire .delimited)).map layers.push).inField FieldNames.layers := by
      show ((message LayerMessage.merge {} wire).map _).inField _ = _
      rw [message, typed, if_neg hw]
    rw [hmerge] at hrun
    cases hrun

/-- The block of a layer is a form of the tile with that layer more. -/
theorem forms_mergeTile_of_block {layer : LayerMessage}
    (h : (block (field LayerMessage.merge) {}).Forms b layer) :
    (mergeTile ⟨3, .delimited⟩ layers).Forms b (layers.push layer) :=
  (h.map layers.push).inField FieldNames.layers

/-- A field that no layer has changes nothing. -/
theorem forms_unknown_field {m : LayerMessage} {v : List UInt8} {n : UInt64}
    (h : varint.Forms v n) : (field LayerMessage.merge m).Forms (writeKey 6 .varint ++ v) m := by
  have hskip : Forms (skipValue (98 + 1) ⟨6, .varint⟩) v () := by
    rw [skipValue_succ]
    exact h.map fun _ => ()
  exact (forms_writeKey 6 .varint (by decide) (by decide)).andThen (hskip.map fun _ => m)

/-- There is a layer of any number of bytes but one: fields of two bytes, and one of three. -/
theorem exists_layer : (n : Nat) → n ≠ 1 →
    ∃ b, b.length = n ∧ Row (field LayerMessage.merge) {} b {}
  | 0, _ => ⟨[], rfl, .nil _⟩
  | 1, h => absurd rfl h
  | 2, _ => by
    obtain ⟨n, hn, -⟩ := exists_forms_terminated (x := 0) Ongoing.nil (Nat.zero_le 9) (by decide)
    exact ⟨_, by cbv, .single (forms_unknown_field hn)⟩
  | 3, _ => by
    have hb : Ongoing [0x80] := ongoing_cons.2 ⟨by decide, .nil⟩
    obtain ⟨n, hn, -⟩ := exists_forms_terminated (x := 0) hb (by decide) (by decide)
    exact ⟨_, by cbv, .single (forms_unknown_field hn)⟩
  | n + 4, _ => by
    obtain ⟨b, hb, hrow⟩ := exists_layer (n + 2) (by omega)
    obtain ⟨m, hm, -⟩ := exists_forms_terminated (x := 0) Ongoing.nil (Nat.zero_le 9) (by decide)
    have htwo : (writeKey 6 .varint ++ ([] ++ [0])).length = 2 := by cbv
    refine ⟨_, ?_, .cons (forms_unknown_field hm) hrow⟩
    rw [List.length_append, htwo, hb]
    omega

/-- A length that is cut can be ended so that there is a layer of that length. -/
theorem exists_layer_of_cut_length (hb : Ongoing b) (hl : b.length ≤ 9) :
    ∃ s, s ≠ [] ∧ (block (field LayerMessage.merge) {}).Forms (b ++ s) {} := by
  obtain ⟨x, hx, hne⟩ : ∃ x : UInt8, x.toNat ≤ 1 ∧ sevens b + 128 ^ b.length * x.toNat ≠ 1 := by
    by_cases hone : sevens b = 1
    · have hpos : 0 < 128 ^ b.length := Nat.pow_pos (by decide)
      have htoNat : (1 : UInt8).toNat = 1 := rfl
      exact ⟨1, by decide, by rw [htoNat]; omega⟩
    · exact ⟨0, by decide, by simpa using hone⟩
  obtain ⟨n, hn, hn'⟩ := exists_forms_terminated hb hl hx
  obtain ⟨body, hbody, hrow⟩ := exists_layer n.toNat (by rwa [hn'])
  refine ⟨x :: body, List.cons_ne_nil _ _, ?_⟩
  have hblock := forms_block hn hbody hrow
  rwa [List.append_assoc] at hblock

/-- **What a cut field of a tile looks like.** -/
theorem cut_tileField_iff : Cut (tileField layers) b ↔ FieldCut b := by
  constructor
  · rintro ⟨s, more, hs, h⟩
    obtain ⟨e, v, k, hk, he, hv⟩ :=
      (framed_key.forms_andThen_iff fun k => framed_mergeTile k layers).1 h
    obtain ⟨tag, wire⟩ := k
    by_cases htag : tag = 3
    · subst htag
      obtain ⟨rfl, layer, hlayer⟩ := forms_mergeTile_layer hv
      -- The cut falls into the key of the layer, or into the block behind it.
      rcases cut_append hk with ⟨w, hw, rfl⟩ | ⟨r, rfl, rfl⟩
      · exact .key ⟨w, _, hw, he, rfl⟩
      · obtain ⟨l, n, body, hl, hn, hlength, hrow⟩ :=
          (forms_block_iff (framed_field LayerMessage.framed_merge)).1 hlayer
        -- Within the block it falls into the length, or into the bytes that the length counts.
        rcases cut_append hl with ⟨w, hw, rfl⟩ | ⟨r, rfl, rfl⟩
        · obtain ⟨hr, hr'⟩ := ongoing_of_forms_varint hn hw
          exact .length he hr hr'
        · have hpos := List.length_pos_iff.2 hs
          have hlt : r.length < n.toNat := by
            rw [List.length_append] at hlength
            omega
          exact .body he hn hlt hlength hrow
    · rw [mergeTile_of_tag_ne htag] at hv
      obtain ⟨u, hu, -⟩ := (framed_skipValue maxDepth _).forms_map_iff.1 hv
      rcases cut_append hk with ⟨w, hw, rfl⟩ | ⟨r, rfl, rfl⟩
      · refine .key ⟨w, _, hw, he, ?_⟩
        rw [OpensField, if_neg htag]
        exact (of_forms_skipValue hu).2
      · exact .skipped he htag (skipCut_of_cut ⟨s, u, hs, hu⟩)
  · intro h
    -- Each cut field can be ended: a cut key with a value behind it, a cut value with its rest.
    cases h with
    | key hb =>
      obtain ⟨s, ⟨tag, wire⟩, hs, hk, hok⟩ := hb
      by_cases htag : tag = 3
      · subst htag
        obtain rfl : wire = .delimited := hok
        obtain ⟨v, -, hv⟩ := exists_layer_of_cut_length .nil (Nat.zero_le 9)
        refine ⟨s ++ ([] ++ v), layers.push {}, List.append_ne_nil_of_left_ne_nil hs _, ?_⟩
        rw [← List.append_assoc]
        exact hk.andThen (forms_mergeTile_of_block hv)
      · rw [OpensField, if_neg htag] at hok
        obtain ⟨v, hv⟩ := exists_forms_skipValue (by decide : maxDepth ≠ 0) hok
          (tag_of_forms_key hk)
        refine ⟨s ++ v, layers, List.append_ne_nil_of_left_ne_nil hs _, ?_⟩
        rw [← List.append_assoc]
        refine hk.andThen ?_
        rw [mergeTile_of_tag_ne (k := ⟨tag, wire⟩) htag]
        exact hv.map fun _ => layers
    | @skipped e b k he htag hb =>
      obtain ⟨s, u, hs, hv⟩ := hb.cut (tag_of_forms_key he)
      refine ⟨s, layers, hs, ?_⟩
      rw [List.append_assoc]
      refine he.andThen ?_
      rw [mergeTile_of_tag_ne htag]
      exact hv.map fun _ => layers
    | length he hb hl =>
      obtain ⟨s, hs, hv⟩ := exists_layer_of_cut_length hb hl
      refine ⟨s, layers.push {}, hs, ?_⟩
      rw [List.append_assoc]
      exact he.andThen (forms_mergeTile_of_block hv)
    | @body e l b w n layer he hl hb hw hrow =>
      refine ⟨w, layers.push layer, ?_, ?_⟩
      · rintro rfl
        rw [List.append_nil] at hw
        omega
      · rw [List.append_assoc, List.append_assoc]
        exact he.andThen (forms_mergeTile_of_block (forms_block hl hw hrow))

end Fields

/-! ## Unfinished payloads -/

section Payloads

variable {b : List UInt8} {f : Fault}

/-- **When more bytes help.** A payload that cannot be read can be made readable by more bytes
just if it ends in the middle of a field, behind fields that can be read. -/
theorem extendable_iff_unfinished (h : readTile b = .error f) : Extendable b ↔ Unfinished b := by
  constructor
  · rintro ⟨s, layers, hs, hread⟩
    obtain ⟨c, t, front, rfl, hrow, hcut⟩ := (readTile_eq_ok_iff.1 hread).exists_cut hs
    refine ⟨c, t, front, rfl, ?_, hrow, cut_tileField_iff.1 hcut⟩
    rintro rfl
    rw [List.append_nil, readTile_eq_ok_iff.2 hrow] at h
    cases h
  · rintro ⟨c, t, front, rfl, -, hrow, hcut⟩
    obtain ⟨s, layers, hs, hform⟩ := cut_tileField_iff.2 hcut
    refine ⟨s, layers, hs, readTile_eq_ok_iff.2 ?_⟩
    rw [List.append_assoc]
    exact hrow.append (.single hform)

/-- Only a broken varint or an underflow may be mended. -/
theorem not_extendable (h : readTile b = .error f) (hv : f.cause ≠ .varint)
    (hu : f.cause ≠ .underflow) : ¬ Extendable b := by
  rintro ⟨s, layers, -, hread⟩
  rw [readTile_fault h hv hu s] at hread
  cases hread

/-- A layer that is all there but cannot be read is not mended by what follows it. -/
theorem not_extendable_layer {c e l body r : List UInt8} {n : UInt64} {front : Array LayerMessage}
    (hc : Row tileField #[] c front) (he : key.Forms e ⟨3, .delimited⟩) (hl : varint.Forms l n)
    (hn : body.length = n.toNat) (hbody : ∀ layer, ¬ Row (field LayerMessage.merge) {} body layer) :
    ¬ Extendable (c ++ (e ++ (l ++ (body ++ r)))) := by
  rintro ⟨s, layers, -, hread⟩
  have hrun : ∀ a, (block (field LayerMessage.merge) {}).run (l ++ (body ++ (r ++ s))) ≠ .ok a := by
    intro a ha
    obtain ⟨l', m, body', hb, hl', hm, hrow⟩ :=
      block_eq_ok (framed_field LayerMessage.framed_merge) (r := a.2) (t := a.1) ha
    rw [List.append_assoc] at hb
    obtain ⟨rfl, rfl, hb⟩ := hl.unique hl' hb
    obtain ⟨rfl, -⟩ := List.append_inj hb (hn.trans hm.symm)
    exact hbody a.1 hrow
  cases hblock : (block (field LayerMessage.merge) {}).run (l ++ (body ++ (r ++ s))) with
  | ok a => exact hrun a hblock
  | error f =>
    have hfield := run_tileField_layer he front (l ++ (body ++ (r ++ s)))
    rw [hblock] at hfield
    have herror := readTile_eq_error_iff.2 ⟨c, _, front, rfl,
      List.append_ne_nil_of_left_ne_nil he.ne_nil _, hc, hfield⟩
    simp only [List.append_assoc] at hread
    rw [herror] at hread
    cases hread

/-- Decoding tells right whether a payload is unfinished: it is reported as truncated just if more
bytes help, and as malformed if not. -/
structure Classified (b : List UInt8) : Prop where
  truncated : (∃ fault, Tile.decode b = .error (.truncated fault)) ↔ Extendable b
  malformed : ¬ Extendable b → ∃ flaw, Tile.decode b = .error (.malformed flaw)

/-- The verdict on a payload is that on its end, by the cause of the fault. -/
def VerdictHolds (b : List UInt8) (f : Fault) : Prop :=
  match f.cause with
  | .strayEnd => False
  | .underflow => Unfinished b
  | .varint => endsMidField b = true ↔ Unfinished b
  | _ => True

/-- A payload that cannot be read is classified rightly if it counts as cut short just when more
bytes can mend it. -/
theorem classified_iff_isCutShort (h : readTile b = .error f) :
    Classified b ↔ (isCutShort b f = true ↔ Extendable b) := by
  have hdecode : Tile.decode b
      = .error (if isCutShort b f then .truncated f else .malformed (.wire f)) := by
    rw [Tile.decode, h]
  by_cases hcut : isCutShort b f = true
  · rw [if_pos hcut] at hdecode
    refine ⟨fun hc => ⟨fun _ => hc.truncated.1 ⟨f, hdecode⟩, fun _ => hcut⟩, fun hc => ⟨?_, ?_⟩⟩
    · exact ⟨fun _ => hc.1 hcut, fun _ => ⟨f, hdecode⟩⟩
    · exact fun hn => absurd (hc.1 hcut) hn
  · rw [if_neg hcut] at hdecode
    have hnot : ¬ ∃ fault, Tile.decode b = .error (.truncated fault) := by
      rintro ⟨fault, e⟩
      rw [hdecode] at e
      cases e
    refine ⟨fun hc => ⟨fun e => absurd e hcut, fun e => absurd (hc.truncated.2 e) hnot⟩,
      fun hc => ⟨⟨fun e => absurd e hnot, fun e => absurd (hc.2 e) hcut⟩, fun _ => ?_⟩⟩
    exact ⟨_, hdecode⟩

/-- **When the verdict is right.** For a payload that cannot be read, decoding tells right whether
it is unfinished just if the cause is no stray end of a group, an underflow is at the end of an
unfinished payload, and behind a broken varint the last byte asks for another one just in an
unfinished payload. -/
theorem classified_iff (h : readTile b = .error f) : Classified b ↔ VerdictHolds b f := by
  rw [classified_iff_isCutShort h]
  by_cases hv : f.cause = .varint
  · rw [VerdictHolds, isCutShort, hv, extendable_iff_unfinished h]
  · by_cases hu : f.cause = .underflow
    · rw [VerdictHolds, isCutShort, hu, extendable_iff_unfinished h]
      exact ⟨fun e => e.1 rfl, fun e => ⟨fun _ => e, fun _ => rfl⟩⟩
    · have hnot := not_extendable h hv hu
      rw [VerdictHolds, isCutShort]
      split <;> simp_all

/-- A cut length is told right; the end of a group that is not open is not. -/
theorem classified_iff_at : Classified [0x1a, 0x80] ∧ ¬ Classified [0x0c] := by
  have hkey : key.Forms [0x1a] ⟨3, .delimited⟩ := framed_key.forms_of_run (by cbv)
  have hcut : readTile [0x1a, 0x80] = .error ⟨.varint, [FieldNames.layers]⟩ := by cbv
  have hend : readTile [0x0c] = .error (.of .strayEnd) := by cbv
  refine ⟨(classified_iff hcut).2 ⟨fun _ => ?_, fun _ => by decide⟩, (classified_iff hend).1⟩
  exact ⟨[], _, _, rfl, List.cons_ne_nil _ _, .nil _,
    .length hkey (ongoing_cons.2 ⟨by decide, .nil⟩) (by decide)⟩

/-- The end of a group that is not open, and a feature that is longer than the layer around it, are
reported as truncated though no bytes help; a cut key of two bytes is reported as malformed though
one byte helps. -/
theorem verdict_fails :
    (Tile.decode [0x0c] = .error (.truncated (.of .strayEnd)) ∧ ¬ Extendable [0x0c]) ∧
    ((∃ fault, Tile.decode [0x1a, 0x02, 0x12, 0x64] = .error (.truncated fault)) ∧
      ¬ Extendable [0x1a, 0x02, 0x12, 0x64]) ∧
    Tile.decode [0x80, 0x01] = .error (.malformed (.wire (.of .varint))) ∧
      Extendable [0x80, 0x01] := by
  refine ⟨⟨by cbv, ?_⟩, ⟨⟨⟨.underflow, [FieldNames.features, FieldNames.layers]⟩, by cbv⟩, ?_⟩,
    by cbv, [0x00], #[], List.cons_ne_nil _ _, by cbv⟩
  · have hend : readTile [0x0c] = .error (.of .strayEnd) := by cbv
    exact not_extendable hend (by decide) (by decide)
  · have hkey : key.Forms [0x1a] ⟨3, .delimited⟩ := framed_key.forms_of_run (by cbv)
    have hlength : varint.Forms [0x02] 2 := framed_varint.forms_of_run (by cbv)
    have hn : ([0x12, 0x64] : List UInt8).length = (2 : UInt64).toNat := rfl
    refine not_extendable_layer (r := []) (.nil _) hkey hlength hn fun layer hrow => ?_
    have hloop : runLoop (field LayerMessage.merge) 0 {} [0x12, 0x64] = .ok (layer, []) :=
      (runLoop_eq_ok_iff (framed_field LayerMessage.framed_merge)).2 ⟨_, rfl, rfl, hrow⟩
    have herror : runLoop (field LayerMessage.merge) 0 {} [0x12, 0x64]
        = .error ⟨.underflow, [FieldNames.features]⟩ := by cbv
    rw [herror] at hloop
    cases hloop

end Payloads

end TileScope
