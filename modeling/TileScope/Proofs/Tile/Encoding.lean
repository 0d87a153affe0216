import TileScope.Proofs.Geometry.Encoding
import TileScope.Proofs.InOrder
import TileScope.Proofs.Message.Writing
import TileScope.Proofs.Ordered.Build

/-!
# Encoding tiles

The messages of a tile: a layer gathers the keys and the values of all of its features, each of
them once and in the order in which they first come, and a feature's tags are their places there.
Decoding what is encoded gives back the tile (`decode_encode`).
-/

namespace TileScope

/-- The message of a property value; the null value has no field. -/
def PropertyValue.message : PropertyValue → ValueMessage
  | .text s => { text := some s }
  | .double d => { double := some d }
  | .int n => { int := some n }
  | .uint n => { uint := some n }
  | .bool b => { bool := some b }
  | .null => {}

/-- The number of a geometry kind. -/
def GeometryKind.number : GeometryKind → UInt32
  | .unknown => 0
  | .point => 1
  | .lineString => 2
  | .polygon => 3

/-- The tags of properties: places in dictionaries, key before value. -/
def tagsOf (keys : List String) (values : List PropertyValue)
    (entries : List (String × PropertyValue)) : List UInt32 :=
  entries.flatMap fun e => [(keys.idxOf e.1).toUInt32, (values.idxOf e.2).toUInt32]

/-- The message of a feature, under the dictionaries of its layer. -/
def Feature.message (keys : List String) (values : List PropertyValue) (f : Feature) :
    FeatureMessage where
  id := f.id
  tags := (tagsOf keys values f.properties.entries).toArray
  kind := some f.kind.number
  geometry := f.geometry.integers.toArray

namespace Layer

/-- The keys of all features, each once. -/
def keys (layer : Layer) : List String :=
  (layer.features.toList.flatMap fun f => f.properties.keys).eraseDups

/-- The values of all features, each once. -/
def values (layer : Layer) : List PropertyValue :=
  (layer.features.toList.flatMap fun f => f.properties.values).eraseDups

/-- The message of a layer with a name. -/
def message (name : String) (layer : Layer) : LayerMessage where
  version := layer.version
  name := name
  features := (layer.features.toList.map (Feature.message layer.keys layer.values)).toArray
  keys := layer.keys.toArray
  values := (layer.values.map PropertyValue.message).toArray
  extent := some layer.extent

/-- A layer that can be encoded: of a version that is read, with places of 32 bits in its
dictionaries and geometries that commands can draw. -/
structure Encodable (layer : Layer) : Prop where
  version : layer.version = 1 ∨ layer.version = 2
  keys : layer.keys.length ≤ 2 ^ 32
  values : layer.values.length ≤ 2 ^ 32
  geometry : ∀ f ∈ layer.features, f.geometry.Encodable

instance (layer : Layer) : Decidable layer.Encodable :=
  decidable_of_iff ((layer.version = 1 ∨ layer.version = 2) ∧ layer.keys.length ≤ 2 ^ 32 ∧
      layer.values.length ≤ 2 ^ 32 ∧ ∀ f ∈ layer.features, f.geometry.Encodable)
    ⟨fun ⟨hversion, hkeys, hvalues, hgeometry⟩ => ⟨hversion, hkeys, hvalues, hgeometry⟩,
      fun h => ⟨h.version, h.keys, h.values, h.geometry⟩⟩

end Layer

namespace Tile

/-- The messages of the layers of a tile. -/
def messages (t : Tile) : List LayerMessage := t.layers.entries.map fun e => e.2.message e.1

/-- The payload of a tile. -/
def encode (t : Tile) : List UInt8 := writeTile t.messages

/-- A tile that can be encoded. -/
def Encodable (t : Tile) : Prop := ∀ e ∈ t.layers.entries, e.2.Encodable

instance (t : Tile) : Decidable t.Encodable :=
  inferInstanceAs (Decidable (∀ e ∈ t.layers.entries, _))

end Tile

/-! ## Decoding the messages -/

section Decoding

/-- The message of a value gives the value back. -/
theorem property_message (v : PropertyValue) : v.message.property = v := by cases v <;> rfl

/-- The place of a member of a dictionary leads back to it. -/
theorem getElem?_place {α : Type} [DecidableEq α] {l : List α} {a : α} (h : a ∈ l)
    (hl : l.length ≤ 2 ^ 32) : l[(l.idxOf a).toUInt32.toNat]? = some a := by
  have hlt : l.idxOf a < l.length := List.idxOf_lt_length_of_mem h
  rw [UInt32.toNat_ofNat_of_lt' (Nat.lt_of_lt_of_le hlt hl), List.getElem?_eq_getElem hlt,
    List.getElem_idxOf]

variable {layer : LayerMessage} {keys : List String} {values : List PropertyValue}

/-- Tags look up the entries that they are of. -/
theorem lookUpTags_tagsOf (hkeys : layer.keys = keys.toArray)
    (hvalues : layer.values = (values.map PropertyValue.message).toArray)
    (hk : keys.length ≤ 2 ^ 32) (hv : values.length ≤ 2 ^ 32)
    {entries : List (String × PropertyValue)}
    (h : ∀ e ∈ entries, e.1 ∈ keys ∧ e.2 ∈ values) (m : OrderedMap String PropertyValue) :
    layer.lookUpTags m (tagsOf keys values entries)
      = .ok (entries.foldl (fun m e => m.insert e.1 e.2) m) := by
  induction entries generalizing m with
  | nil => rfl
  | cons e entries ih =>
    obtain ⟨⟨hkey, hvalue⟩, h⟩ := List.forall_mem_cons.1 h
    have hname : layer.keys[(keys.idxOf e.1).toUInt32.toNat]? = some e.1 := by
      rw [hkeys, List.getElem?_toArray, getElem?_place hkey hk]
    have hmessage : layer.values[(values.idxOf e.2).toUInt32.toNat]? = some e.2.message := by
      rw [hvalues, List.getElem?_toArray, List.getElem?_map, getElem?_place hvalue hv]
      rfl
    show layer.lookUpTags m (_ :: _ :: tagsOf keys values entries) = _
    rw [LayerMessage.lookUpTags, hname]
    simp only [hmessage, property_message]
    rw [ih h, List.foldl_cons]

/-- There are two tags for each property. -/
theorem length_tagsOf (entries : List (String × PropertyValue)) :
    (tagsOf keys values entries).length = 2 * entries.length := by
  induction entries with
  | nil => rfl
  | cons e entries ih =>
    show (_ :: _ :: tagsOf keys values entries).length = _
    rw [List.length_cons, List.length_cons, List.length_cons, ih]
    omega

/-- The message of a feature has the shape of its geometry. -/
theorem shape?_message (f : Feature) : (f.message keys values).shape? = f.geometry.shape? := by
  obtain ⟨id, geometry, properties⟩ := f
  cases geometry <;> rfl

/-- A feature is drawn and looked up from its message. -/
theorem feature_message (hkeys : layer.keys = keys.toArray)
    (hvalues : layer.values = (values.map PropertyValue.message).toArray)
    (hk : keys.length ≤ 2 ^ 32) (hv : values.length ≤ 2 ^ 32) {f : Feature}
    (hentries : ∀ e ∈ f.properties.entries, e.1 ∈ keys ∧ e.2 ∈ values)
    (hgeometry : f.geometry.Encodable) : layer.feature (f.message keys values) = .ok f := by
  have hproperties : layer.properties (tagsOf keys values f.properties.entries)
      = .ok f.properties := by
    have hlength : (tagsOf keys values f.properties.entries).length % 2 = 0 := by
      rw [length_tagsOf]
      omega
    rw [LayerMessage.properties, if_pos hlength,
      lookUpTags_tagsOf hkeys hvalues hk hv hentries, OrderedMap.foldl_insert_entries]
  rw [LayerMessage.feature, shape?_message]
  cases hshape : f.geometry.shape? with
  | none =>
    obtain ⟨id, geometry, properties⟩ := f
    cases geometry with
    | raw integers =>
      simp only [Feature.message] at hproperties ⊢
      rw [hproperties]
      rfl
    | points ps => cases hshape
    | lines paths => cases hshape
    | rings paths => cases hshape
  | some shape =>
    have hdraw := drawGeometry_integers hgeometry hshape
    simp only [Feature.message] at hproperties ⊢
    rw [hdraw, hproperties]
    rfl

/-- The keys and values of a feature are in the dictionaries of its layer. -/
theorem mem_dictionaries {layer : Layer} {f : Feature} (hf : f ∈ layer.features)
    {e : String × PropertyValue} (he : e ∈ f.properties.entries) :
    e.1 ∈ layer.keys ∧ e.2 ∈ layer.values := by
  have hf' : f ∈ layer.features.toList := Array.mem_toList_iff.2 hf
  exact ⟨List.mem_eraseDups.2 (List.mem_flatMap.2 ⟨f, hf', List.mem_map_of_mem he⟩),
    List.mem_eraseDups.2 (List.mem_flatMap.2 ⟨f, hf', List.mem_map_of_mem he⟩)⟩

/-- A layer is decoded from its message. -/
theorem decode_message {layer : Layer} (h : layer.Encodable) (name : String) :
    (layer.message name).decode = .ok layer := by
  have hfeatures : (layer.message name).features.toList.mapM (layer.message name).feature
      = .ok (layer.features.toList.map id) :=
    mapM_map_eq_pure fun f hf =>
      have hmem := Array.mem_toList_iff.1 hf
      feature_message rfl rfl h.keys h.values (fun e he => mem_dictionaries hmem he)
        (h.geometry f hmem)
  have hversion : (layer.message name).version = 1 ∨ (layer.message name).version = 2 := h.version
  rw [LayerMessage.decode, if_pos hversion, hfeatures, List.map_id]
  rfl

/-- The layers of an ascending list are decoded one after the other. -/
theorem decodeLayers_messages {m : OrderedMap String Layer} {entries : List (String × Layer)}
    (hascending : Ascending (m.entries ++ entries)) (h : ∀ e ∈ entries, e.2.Encodable) :
    decodeLayers m (entries.map fun e => e.2.message e.1)
      = .ok (entries.foldl (fun m e => m.insert e.1 e.2) m) := by
  induction entries generalizing m with
  | nil => rfl
  | cons e entries ih =>
    obtain ⟨he, h⟩ := List.forall_mem_cons.1 h
    obtain ⟨hnew, hinsert⟩ := OrderedMap.insert_of_ascending hascending
    have hnew' : ¬ m.contains (e.2.message e.1).name = true := by
      rw [Bool.not_eq_true]
      exact hnew
    rw [List.map_cons, decodeLayers, if_neg hnew', decode_message he]
    refine ih ?_ h
    show Ascending ((m.insert e.1 e.2).entries ++ entries)
    rwa [hinsert, List.append_assoc, List.singleton_append]

end Decoding

namespace Tile

/-- **Decoding undoes encoding.** A tile whose layers have a version that is read, dictionaries
with places of 32 bits, and geometries of parts that deltas of 32 bits can draw, is decoded from
its payload: the layers, their features in order, and their ids, coordinates and properties. -/
theorem decode_encode {t : Tile} (h : t.Encodable) (hlength : t.encode.length < 2 ^ 64) :
    decode t.encode = .ok t := by
  have hlayers : ∀ m ∈ t.messages, m.write.length < 2 ^ 64 := by
    intro m hm
    have hfield : (layerField m).length ≤ t.encode.length := Wire.length_le_repeated layerField hm
    have hbody : m.write.length ≤ (layerField m).length := Wire.length_le_blockField 3 m.write
    omega
  rw [decode, encode, readTile_writeTile hlayers]
  show (decodeLayers .empty t.messages).map Tile.mk = _
  rw [messages, decodeLayers_messages (m := .empty) t.layers.ascending h,
    OrderedMap.foldl_insert_entries]
  rfl

/-- A tile with two layers whose features share keys and values, with coordinates outside the
extent, and with geometries that carry the pen from part to part. -/
def sample : Tile where
  layers := .ofList [
    ("roads", { version := 2, extent := 4096, features := #[
      { id := some 7
        geometry := .lines [[⟨-5, 3⟩, ⟨5000, 3⟩, ⟨5000, -9⟩], [⟨0, 0⟩]]
        properties := .ofList [("kind", .text "path"), ("lanes", .uint 2), ("name", .null)] },
      { id := none
        geometry := .rings [[⟨0, 0⟩, ⟨10, 0⟩, ⟨10, 10⟩, ⟨0, 0⟩], [⟨11, 11⟩, ⟨11, 11⟩]]
        properties := .ofList [("kind", .text "path"), ("lanes", .int (-1))] }] }),
    ("places", { version := 1, extent := 0, features := #[
      { id := some 18446744073709551615
        geometry := .points [⟨2147483647, 0⟩, ⟨0, -2147483648⟩]
        properties := .ofList [("open", .bool true), ("rank", .double ⟨9221120237041090561⟩)] },
      { id := some 0, geometry := .points [], properties := .empty },
      { id := some 0, geometry := .raw [9, 4294967295], properties := .empty }] })]

/-- The sample is decoded from its payload. -/
theorem decode_encode_sample : decode sample.encode = .ok sample := by
  have hencodable : decide sample.Encodable = true := by cbv
  exact decode_encode (of_decide_eq_true hencodable) (by cbv)

end Tile

end TileScope
