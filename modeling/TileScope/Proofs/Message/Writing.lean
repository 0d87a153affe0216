import TileScope.Proofs.Message.Framing
import TileScope.Proofs.Wire.Writing

/-!
# Writing tile messages

The canonical written form of the messages of a tile: the fields that are there, by ascending
number, repeated ones in their order, and numbers of a feature in one block. Reading gives back the
messages (`readTile_writeTile`) as long as every length fits 64 bits; what is written with a longer
layer cannot be read at all (`length_lt_of_row_writeTile`).
-/

namespace TileScope

open Wire Wire.Read

/-- A kind as a signed number of 32 bits, widened to 64 bits. -/
def kindCode (kind : UInt32) : Nat :=
  if kind.toNat < 2 ^ 31 then kind.toNat else kind.toNat + (2 ^ 64 - 2 ^ 32)

namespace ValueMessage

/-- The written form of a value. -/
def write (m : ValueMessage) : List UInt8 :=
  ifThere (textField 1) m.text
    ++ ifThere (fun n => writeKey 2 .fixed32 ++ writeFixed 4 n.toNat) m.single
    ++ ifThere (fun d => writeKey 3 .fixed64 ++ writeFixed 8 d.bits.toNat) m.double
    ++ ifThere (fun n => varintField 4 n.toUInt64.toNat) m.int
    ++ ifThere (fun n => varintField 5 n.toNat) m.uint
    ++ ifThere (fun n => varintField 6 (zigzagCode n.toInt)) m.sint
    ++ ifThere (fun b => varintField 7 b.toNat) m.bool

end ValueMessage

namespace FeatureMessage

/-- The written form of a feature. -/
def write (m : FeatureMessage) : List UInt8 :=
  ifThere (fun n => varintField 1 n.toNat) m.id
    ++ packedField 2 m.tags.toList
    ++ ifThere (fun n => varintField 3 (kindCode n)) m.kind
    ++ packedField 4 m.geometry.toList

end FeatureMessage

namespace LayerMessage

/-- The written form of a layer. -/
def write (m : LayerMessage) : List UInt8 :=
  textField 1 m.name
    ++ repeated (fun f => blockField 2 f.write) m.features.toList
    ++ repeated (textField 3) m.keys.toList
    ++ repeated (fun v => blockField 4 v.write) m.values.toList
    ++ ifThere (fun n => varintField 5 n.toNat) m.extent
    ++ varintField 15 m.version.toNat

end LayerMessage

/-- The written form of a layer in a tile. -/
def layerField (layer : LayerMessage) : List UInt8 := blockField 3 layer.write

/-- The written form of a tile. -/
def writeTile (layers : List LayerMessage) : List UInt8 := repeated layerField layers

/-! ## Reading back -/

section ReadingBack

/-- The code of a kind fits 64 bits. -/
theorem kindCode_lt (kind : UInt32) : kindCode kind < 2 ^ 64 := by
  have hk := kind.toNat_lt
  unfold kindCode
  split <;> omega

/-- Cut to 32 bits, the code of a kind is the kind. -/
theorem toUInt32_kindCode (kind : UInt32) : (kindCode kind).toUInt64.toUInt32 = kind := by
  have hk := kind.toNat_lt
  refine UInt32.toNat_inj.1 ?_
  rw [UInt64.toNat_toUInt32, UInt64.toNat_ofNat_of_lt' (kindCode_lt kind), kindCode]
  split <;> omega

/-- The zigzag code of a signed number of 64 bits fits 64 bits. -/
theorem zigzagCode_toInt_lt (n : Int64) : zigzagCode n.toInt < 2 ^ 64 := by
  have hlow := n.le_toInt
  have hhigh := n.toInt_lt
  unfold zigzagCode
  split <;> omega

/-- The written fields of a value are a row from the empty value to it. -/
theorem ValueMessage.row_write {m : ValueMessage} (h : m.write.length < 2 ^ 64) :
    Row (field merge) {} m.write m := by
  obtain ⟨text, single, double, int, uint, sint, bool⟩ := m
  have hlen : ∀ s, text = some s → (octets s.toByteArray).length < 2 ^ 64 := by
    rintro s rfl
    have := length_le_blockField 1 (octets s.toByteArray)
    simp only [write, ifThere, textField, List.length_append] at h
    omega
  have htext := row_ifThere (field merge)
    (textField 1)
    (fun x => ValueMessage.mk x none none none none none none) text fun s hs =>
      forms_field (by decide) rfl (forms_text s (hlen s hs)) rfl
  have hsingle := row_ifThere (field merge)
    (fun n => writeKey 2 .fixed32 ++ writeFixed 4 n.toNat)
    (fun x => ValueMessage.mk text x none none none none none) single fun n _ =>
      forms_field (by decide) rfl (forms_writeFixed (n := 3) n.toNat_lt) (by simp)
  have hdouble := row_ifThere (field merge)
    (fun d => writeKey 3 .fixed64 ++ writeFixed 8 d.bits.toNat)
    (fun x => ValueMessage.mk text single x none none none none) double fun d _ =>
      forms_field (by decide) rfl (forms_writeFixed (n := 7) d.bits.toNat_lt) (by simp)
  have hint := row_ifThere (field merge)
    (fun n : Int64 => varintField 4 n.toUInt64.toNat)
    (fun x => ValueMessage.mk text single double x none none none) int fun n _ =>
      forms_field (by decide) rfl (forms_varint64 n.toUInt64) rfl
  have huint := row_ifThere (field merge)
    (fun n : UInt64 => varintField 5 n.toNat)
    (fun x => ValueMessage.mk text single double int x none none) uint fun n _ =>
      forms_field (by decide) rfl (forms_varint64 n) rfl
  have hsint := row_ifThere (field merge)
    (fun n : Int64 => varintField 6 (zigzagCode n.toInt))
    (fun x => ValueMessage.mk text single double int uint x none) sint fun n _ =>
      forms_field (by decide) rfl (forms_writeVarint (zigzagCode_toInt_lt n)) (by
        rw [UInt64.toNat_ofNat_of_lt' (zigzagCode_toInt_lt n), zigzag_zigzagCode,
          Int64.ofInt_toInt])
  have hbool := row_ifThere (field merge)
    (fun b : Bool => varintField 7 b.toNat)
    (fun x => ValueMessage.mk text single double int uint sint x) bool fun b _ =>
      forms_field (by decide) rfl (forms_writeVarint (by cases b <;> decide))
        (by cases b <;> rfl)
  exact (((((htext.append hsingle).append hdouble).append hint).append huint).append hsint).append
    hbool

/-- The written fields of a feature are a row from the empty feature to it. -/
theorem FeatureMessage.row_write {m : FeatureMessage} (h : m.write.length < 2 ^ 64) :
    Row (field merge) {} m.write m := by
  obtain ⟨id, ⟨tags⟩, kind, ⟨geometry⟩⟩ := m
  have hlen : (packedField 2 tags).length < 2 ^ 64 ∧ (packedField 4 geometry).length < 2 ^ 64 := by
    simp only [write, List.length_append] at h
    omega
  have hid := row_ifThere (field merge)
    (fun n : UInt64 => varintField 1 n.toNat)
    (fun x => FeatureMessage.mk x #[] none #[]) id fun n _ =>
      forms_field (by decide) rfl (forms_varint64 n) rfl
  have htags := row_packedField merge
    (fun x => FeatureMessage.mk id x none #[]) 2 tags (by decide) rfl hlen.1
  have hkind := row_ifThere (field merge)
    (fun n : UInt32 => varintField 3 (kindCode n))
    (fun x => FeatureMessage.mk id ⟨tags⟩ x #[]) kind fun n _ =>
      forms_field (by decide) rfl (forms_writeVarint (kindCode_lt n))
        (by rw [toUInt32_kindCode])
  have hgeometry := row_packedField merge
    (fun x => FeatureMessage.mk id ⟨tags⟩ kind x) 4 geometry (by decide) rfl hlen.2
  exact ((hid.append htags).append hkind).append hgeometry

/-- The written fields of a layer are a row from the empty layer to it. -/
theorem LayerMessage.row_write {m : LayerMessage} (h : m.write.length < 2 ^ 64) :
    Row (field merge) {} m.write m := by
  obtain ⟨version, name, ⟨features⟩, ⟨keys⟩, ⟨values⟩, extent⟩ := m
  simp only [write, List.length_append] at h
  have hname : (field merge {}).Forms (textField 1 name) ⟨1, name, #[], #[], #[], none⟩ := by
    have := length_le_blockField 1 (octets name.toByteArray)
    exact forms_field (by decide) rfl (forms_text name (by simp only [textField] at h; omega)) rfl
  have hfeatures := row_repeated (field merge)
    (fun f : FeatureMessage => blockField 2 f.write)
    (fun l => LayerMessage.mk 1 name l.toArray #[] #[] none) features fun done f hf => by
      have hle := length_le_repeated (fun f : FeatureMessage => blockField 2 f.write) hf
      have hblock := length_le_blockField 2 f.write
      have hlen : f.write.length < 2 ^ 64 := by omega
      exact forms_field (by decide) rfl (forms_message hlen (FeatureMessage.row_write hlen))
        (by rw [List.push_toArray])
  have hkeys := row_repeated (field merge)
    (textField 3)
    (fun l => LayerMessage.mk 1 name ⟨features⟩ l.toArray #[] none) keys fun done s hs => by
      have hle := length_le_repeated (textField 3) hs
      have hblock := length_le_blockField 3 (octets s.toByteArray)
      simp only [textField] at hle h
      exact forms_field (by decide) rfl (forms_text s (by omega)) (by rw [List.push_toArray])
  have hvalues := row_repeated (field merge)
    (fun v : ValueMessage => blockField 4 v.write)
    (fun l => LayerMessage.mk 1 name ⟨features⟩ ⟨keys⟩ l.toArray none) values fun done v hv => by
      have hle := length_le_repeated (fun v : ValueMessage => blockField 4 v.write) hv
      have hblock := length_le_blockField 4 v.write
      have hlen : v.write.length < 2 ^ 64 := by omega
      exact forms_field (by decide) rfl (forms_message hlen (ValueMessage.row_write hlen))
        (by rw [List.push_toArray])
  have hextent := row_ifThere (field merge)
    (fun n : UInt32 => varintField 5 n.toNat)
    (fun x => LayerMessage.mk 1 name ⟨features⟩ ⟨keys⟩ ⟨values⟩ x) extent fun n _ =>
      forms_field (by decide) rfl (forms_varint32 n) (by rw [UInt32.toUInt32_toUInt64])
  have hversion : (field merge ⟨1, name, ⟨features⟩, ⟨keys⟩, ⟨values⟩, extent⟩).Forms
      (varintField 15 version.toNat) ⟨version, name, ⟨features⟩, ⟨keys⟩, ⟨values⟩, extent⟩ :=
    forms_field (by decide) rfl (forms_varint32 version) (by rw [UInt32.toUInt32_toUInt64])
  exact (((((Row.single hname).append hfeatures).append hkeys).append hvalues).append
    hextent).append (.single hversion)

/-- A layer in a tile is a field of it. -/
theorem forms_layerField (layers : Array LayerMessage) {layer : LayerMessage}
    (h : layer.write.length < 2 ^ 64) :
    (tileField layers).Forms (layerField layer) (layers.push layer) :=
  forms_field (by decide) rfl (forms_message h (LayerMessage.row_write h)) rfl

/-- The written layers of a tile are a row from no layers to them. -/
theorem row_writeTile {layers : List LayerMessage} (h : ∀ l ∈ layers, l.write.length < 2 ^ 64) :
    Row tileField #[] (writeTile layers) layers.toArray := by
  refine row_repeated _ _ List.toArray layers fun done layer hlayer => ?_
  rw [← List.push_toArray]
  exact forms_layerField done.toArray (h layer hlayer)

/-- What is written is read back. -/
theorem readTile_writeTile {layers : List LayerMessage}
    (h : ∀ l ∈ layers, l.write.length < 2 ^ 64) :
    readTile (writeTile layers) = .ok layers.toArray :=
  readTile_eq_ok_iff.2 (row_writeTile h)

/-- A tile that can be read was written without a layer too long to be read. -/
theorem length_lt_of_row_writeTile {layers : List LayerMessage} {s t : Array LayerMessage}
    (h : Row tileField s (writeTile layers) t) : ∀ l ∈ layers, l.write.length < 2 ^ 64 := by
  induction layers generalizing s with
  | nil => exact fun l hl => by cases hl
  | cons layer layers ih =>
    have hwrite : writeTile (layer :: layers) = writeKey 3 .delimited
        ++ (writeVarint layer.write.length ++ (layer.write ++ writeTile layers)) := by
      rw [writeTile, repeated, List.flatMap_cons, layerField, blockField, writeBlock]
      simp only [List.append_assoc]
      rfl
    have hkey := forms_writeKey 3 .delimited (by decide) (by decide)
    obtain ⟨c, r, u, hc, hform, hmore⟩ := h.eq_cons (by
      rw [hwrite]
      exact List.append_ne_nil_of_left_ne_nil hkey.ne_nil _)
    have hlength : layer.write.length < 2 ^ 64 := by
      have hrun := hform r
      rw [← hc, hwrite, run_tileField_layer hkey, run_block] at hrun
      cases hvarint : varint.run (writeVarint layer.write.length
          ++ (layer.write ++ writeTile layers)) with
      | error e =>
        rw [hvarint] at hrun
        cases hrun
      | ok a => exact lt_of_run_writeVarint hvarint
    have hcons : writeTile (layer :: layers) = layerField layer ++ writeTile layers := rfl
    obtain ⟨-, -, rfl⟩ := hform.unique (forms_layerField s hlength) (hc.symm.trans hcons)
    exact List.forall_mem_cons.2 ⟨hlength, ih hmore⟩

end ReadingBack

end TileScope
