import TileScope.Proofs.Message.Writing
import TileScope.Proofs.Ordered.Build
import TileScope.Proofs.Wire.Cut
import TileScope.Tile.Decode

/-!
# Cut payloads

The written form of a tile, cut short. A cut between two layers leaves the tile of the layers in
front of it; any other cut falls into a layer and leaves a payload that is reported as truncated
(`decode_cut`): behind the key of the layer or in its length a varint is missing or goes on, and in
its body there are fewer bytes than its length says.
-/

namespace TileScope

open Wire Wire.Read

/-! ## Layers of a decoded tile -/

section Layers

variable {m r : OrderedMap String Layer} {layers more : List LayerMessage}

/-- A tile has just the decoded layers of a list, each under its name. -/
structure Tile.HasLayers (t : Tile) (layers : List LayerMessage) : Prop where
  size : t.layers.size = layers.length
  get? : ∀ name layer, t.layers.get? name = some layer ↔
    ∃ m ∈ layers, m.name = name ∧ m.decode = .ok layer

/-- Decoding a layer with a new name adds it. -/
theorem decodeLayers_cons {layer : LayerMessage}
    (h : decodeLayers m (layer :: layers) = .ok r) :
    ∃ d, m.get? layer.name = none ∧ layer.decode = .ok d ∧
      decodeLayers (m.insert layer.name d) layers = .ok r := by
  rw [decodeLayers] at h
  split at h
  · cases h
  · next hnew =>
    cases hd : layer.decode with
    | error e =>
      rw [hd] at h
      cases h
    | ok d =>
      rw [hd] at h
      refine ⟨d, ?_, rfl, h⟩
      rwa [OrderedMap.contains, Bool.not_eq_true, Option.isSome_eq_false_iff,
        Option.isNone_iff_eq_none] at hnew

/-- Layers are decoded one part after the other. -/
theorem decodeLayers_append :
    decodeLayers m (layers ++ more) = (decodeLayers m layers).bind (decodeLayers · more) := by
  induction layers generalizing m with
  | nil => rfl
  | cons layer layers ih =>
    rw [List.cons_append, decodeLayers, decodeLayers]
    split
    · rfl
    · cases layer.decode with
      | error e => rfl
      | ok d => exact ih

/-- If all layers decode, so do the first ones. -/
theorem decodeLayers_take (h : decodeLayers m layers = .ok r) (k : Nat) :
    ∃ front, decodeLayers m (layers.take k) = .ok front := by
  rw [← List.take_append_drop k layers, decodeLayers_append] at h
  cases hfront : decodeLayers m (layers.take k) with
  | error e =>
    rw [hfront] at h
    cases h
  | ok front => exact ⟨front, rfl⟩

/-- If all layers decode, so does each of them. -/
theorem decode_of_decodeLayers (h : decodeLayers m layers = .ok r) :
    ∀ l ∈ layers, ∃ d, l.decode = .ok d := by
  induction layers generalizing m with
  | nil => exact fun l hl => by cases hl
  | cons layer layers ih =>
    obtain ⟨d, -, hd, h⟩ := decodeLayers_cons h
    exact List.forall_mem_cons.2 ⟨⟨d, hd⟩, ih h⟩

/-- Decoded layers are found under their names, beside those that were there. -/
theorem get?_decodeLayers (h : decodeLayers m layers = .ok r) :
    r.size = m.size + layers.length ∧ ∀ name layer, r.get? name = some layer ↔
      m.get? name = some layer ∨ ∃ l ∈ layers, l.name = name ∧ l.decode = .ok layer := by
  induction layers generalizing m with
  | nil =>
    cases h
    exact ⟨rfl, fun name layer => by simp⟩
  | cons l layers ih =>
    obtain ⟨d, hnew, hd, h⟩ := decodeLayers_cons h
    obtain ⟨hsize, hget⟩ := ih h
    refine ⟨?_, fun name layer => ?_⟩
    · have hplace : (m.insert l.name d).size = m.size + 1 := OrderedMap.length_place hnew
      rw [hsize, hplace, List.length_cons]
      omega
    · rw [hget, OrderedMap.get?_insert]
      simp only [List.mem_cons, exists_eq_or_imp, hd, Except.ok.injEq]
      by_cases hname : name = l.name
      · subst hname
        simp [hnew]
      · simp [hname, Ne.symm hname]

end Layers

/-! ## Cuts -/

section Cuts

variable {layer : LayerMessage} {layers : List LayerMessage} {q t : List UInt8}

/-- A cut through fields leaves whole fields and the front of one more. -/
theorem cut_repeated {α : Type} {write : α → List UInt8} {l : List α}
    (h : q ++ t = repeated write l) (ht : t ≠ []) :
    ∃ done a more r, l = done ++ a :: more ∧ q = repeated write done ++ r ∧
      ∃ w, w ≠ [] ∧ r ++ w = write a := by
  induction l generalizing q with
  | nil => exact absurd (List.append_eq_nil_iff.1 h).2 ht
  | cons a l ih =>
    have hcons : repeated write (a :: l) = write a ++ repeated write l := rfl
    rw [hcons] at h
    rcases cut_append h with ⟨w, hw, ha⟩ | ⟨r, hq, hr⟩
    · exact ⟨[], a, l, q, rfl, rfl, w, hw, ha.symm⟩
    · obtain ⟨done, a', more, r', hl, hr', hcut⟩ := ih hr.symm
      refine ⟨a :: done, a', more, r', by rw [hl, List.cons_append], ?_, hcut⟩
      show q = write a ++ repeated write done ++ r'
      rw [List.append_assoc, ← hr', hq]

/-- Whether a payload ends in the middle of a field is seen at its last byte. -/
theorem endsMidField_append {r : List UInt8} (hr : r ≠ []) :
    endsMidField (q ++ r) = endsMidField r := by
  rw [endsMidField, endsMidField, List.getLast?_append, List.getLast?_eq_some_getLast hr,
    Option.some_or]

/-- A broken varint counts as cut short if the payload ends in the middle of a field. -/
theorem isCutShort_varint {f : Fault} (h : f.cause = .varint) (hq : endsMidField q = true) :
    isCutShort q f = true := by
  rw [isCutShort, h]
  exact hq

/-- Bytes that ask for another one end in the middle of a field. -/
theorem endsMidField_of_ongoing (h : Ongoing q) (hq : q ≠ []) : endsMidField q = true := by
  have hlast := h _ (List.getLast_mem hq)
  rw [endsMidField, List.getLast?_eq_some_getLast hq]
  simp [hlast]

/-- The key of a layer is one byte. -/
theorem writeKey_layer : writeKey 3 .delimited = [0x1a] := by
  rw [writeKey, writeVarint, if_pos (by decide)]
  rfl

/-- Behind a length there are fewer bytes than it says. -/
theorem run_block_cut_body {σ : Type} (step : σ → Read σ) (s : σ) {body w : List UInt8}
    (hw : w ≠ []) (h : (body ++ w).length < 2 ^ 64) :
    (block step s).run (writeVarint (body ++ w).length ++ body) = .error (.of .underflow) := by
  have hpos := List.length_pos_iff.2 hw
  have hn : (body ++ w).length.toUInt64.toNat = (body ++ w).length := UInt64.toNat_ofNat_of_lt' h
  rw [run_block, forms_writeVarint h body]
  simp only [hn]
  exact if_neg (by rw [List.length_append]; omega)

/-- The front of a layer cannot be read, and what ends with it counts as cut short. -/
theorem run_cut_layerField {r w : List UInt8} (hr : r ≠ []) (hw : w ≠ [])
    (h : r ++ w = layerField layer) (h64 : layer.write.length < 2 ^ 64)
    (done : Array LayerMessage) :
    ∃ f, (tileField done).run r = .error f ∧ ∀ q, isCutShort (q ++ r) f = true := by
  have hkey : key.Forms [0x1a] ⟨3, .delimited⟩ := by
    rw [← writeKey_layer]
    exact forms_writeKey 3 .delimited (by decide) (by decide)
  rw [layerField, blockField, writeBlock, writeKey_layer] at h
  obtain ⟨b, rfl⟩ : ∃ b, r = 0x1a :: b := by
    cases r with
    | nil => exact absurd rfl hr
    | cons x b =>
      obtain rfl : x = 0x1a := (List.cons.inj h).1
      exact ⟨b, rfl⟩
  have hb : b ++ w = writeVarint layer.write.length ++ layer.write := (List.cons.inj h).2
  have hrun := run_tileField_layer hkey done b
  rcases cut_append hb with ⟨v, hv, hcut⟩ | ⟨body, rfl, hbody⟩
  · obtain ⟨hongoing, -⟩ := ongoing_of_forms_varint (hcut ▸ forms_writeVarint h64) hv
    rw [run_block, run_varint_of_ongoing hongoing] at hrun
    refine ⟨_, hrun, fun q => isCutShort_varint rfl ?_⟩
    rw [endsMidField_append (List.cons_ne_nil _ _)]
    -- the last byte is the key of the layer, or one of its length
    by_cases hnil : b = []
    · subst hnil
      decide
    · rw [← List.singleton_append, endsMidField_append hnil]
      exact endsMidField_of_ongoing hongoing hnil
  · have hblock := run_block_cut_body (field LayerMessage.merge) {} hw (hbody ▸ h64)
    rw [← hbody] at hblock
    rw [hblock] at hrun
    exact ⟨_, hrun, fun q => rfl⟩

end Cuts

/-! ## Tiles -/

section Tiles

variable {layer : LayerMessage} {layers : List LayerMessage} {tile : Tile}

/-- A written tile decodes as its layers do. -/
theorem decode_writeTile (h : ∀ l ∈ layers, l.write.length < 2 ^ 64) :
    Tile.decode (writeTile layers) = (decodeLayers .empty layers).map Tile.mk := by
  rw [Tile.decode, readTile_writeTile h]

/-- Layers decoded from nothing are those of the tile. -/
theorem hasLayers_of_decodeLayers {r : OrderedMap String Layer}
    (h : decodeLayers .empty layers = .ok r) : Tile.HasLayers ⟨r⟩ layers := by
  obtain ⟨hsize, hget⟩ := get?_decodeLayers h
  refine ⟨hsize.trans (Nat.zero_add _), fun name layer => ?_⟩
  rw [hget, OrderedMap.get?_empty]
  simp

/-- Only layers short enough to be read are in a payload that decodes. -/
theorem decodeLayers_of_decode (h : Tile.decode (writeTile layers) = .ok tile) :
    (∀ l ∈ layers, l.write.length < 2 ^ 64) ∧ decodeLayers .empty layers = .ok tile.layers := by
  have hlengths : ∀ l ∈ layers, l.write.length < 2 ^ 64 := by
    cases hread : readTile (writeTile layers) with
    | error f =>
      rw [Tile.decode, hread] at h
      cases h
    | ok messages => exact length_lt_of_row_writeTile (readTile_eq_ok_iff.1 hread)
  refine ⟨hlengths, ?_⟩
  rw [decode_writeTile hlengths] at h
  cases hr : decodeLayers .empty layers with
  | error e =>
    rw [hr] at h
    cases h
  | ok r =>
    rw [hr] at h
    cases h
    rfl

/-- The front of a tile up to the end of a layer decodes to the layers in it. -/
theorem decode_take (h : Tile.decode (writeTile layers) = .ok tile) (k : Nat) :
    ∃ cut, Tile.decode (writeTile (layers.take k)) = .ok cut ∧ cut.HasLayers (layers.take k) ∧
      ∀ m ∈ layers.take k, cut.layers.get? m.name = tile.layers.get? m.name := by
  obtain ⟨hlengths, hdecode⟩ := decodeLayers_of_decode h
  obtain ⟨front, hfront⟩ := decodeLayers_take hdecode k
  have htake : ∀ m ∈ layers.take k, m ∈ layers := fun m hm => List.mem_of_mem_take hm
  have hcut := hasLayers_of_decodeLayers hfront
  refine ⟨⟨front⟩, ?_, hcut, fun m hm => ?_⟩
  · rw [decode_writeTile fun m hm => hlengths m (htake m hm), hfront]
    rfl
  · obtain ⟨layer, hlayer⟩ := decode_of_decodeLayers hfront m hm
    rw [(hcut.get? m.name layer).2 ⟨m, hm, rfl, hlayer⟩,
      ((hasLayers_of_decodeLayers hdecode).get? m.name layer).2 ⟨m, htake m hm, rfl, hlayer⟩]

/-- Layers with the front of another one behind them are truncated. -/
theorem decode_inside {done : List LayerMessage} {r w : List UInt8} (hr : r ≠ []) (hw : w ≠ [])
    (hlayer : r ++ w = layerField layer) (h : ∀ l ∈ done, l.write.length < 2 ^ 64)
    (h64 : layer.write.length < 2 ^ 64) :
    ∃ fault, Tile.decode (writeTile done ++ r) = .error (.truncated fault) := by
  obtain ⟨f, hf, hcut⟩ := run_cut_layerField hr hw hlayer h64 done.toArray
  have hread := readTile_eq_error_iff.2 ⟨_, r, _, rfl, hr, row_writeTile h, hf⟩
  refine ⟨f, ?_⟩
  rw [Tile.decode, hread]
  simp only [hcut, if_true]

/-- **A cut tile is never a wrong tile.** If the written form of some layers decodes, its front
up to the end of a layer decodes to just the layers in front of the cut, each the same as in the
whole tile; cut at any other place it is truncated. -/
theorem decode_cut {q : List UInt8} (h : Tile.decode (writeTile layers) = .ok tile)
    (hq : q <+: writeTile layers) (hne : q ≠ writeTile layers) :
    (∀ k, q = writeTile (layers.take k) → ∃ cut, Tile.decode q = .ok cut ∧
      cut.HasLayers (layers.take k) ∧
      ∀ m ∈ layers.take k, cut.layers.get? m.name = tile.layers.get? m.name) ∧
    ((∀ k, q ≠ writeTile (layers.take k)) →
      ∃ fault, Tile.decode q = .error (.truncated fault)) := by
  constructor
  · rintro k rfl
    exact decode_take h k
  · intro hk
    obtain ⟨t, ht⟩ := hq
    have htne : t ≠ [] := by
      rintro rfl
      exact hne (by rw [← ht, List.append_nil])
    obtain ⟨done, layer, more, r, hlayers, rfl, w, hw, hlayer⟩ := cut_repeated ht htne
    have hr : r ≠ [] := by
      rintro rfl
      refine hk done.length ?_
      rw [hlayers, List.take_left, List.append_nil]
      rfl
    obtain ⟨hlengths, -⟩ := decodeLayers_of_decode h
    rw [hlayers] at hlengths
    exact decode_inside hr hw hlayer (fun m hm => hlengths m (List.mem_append_left _ hm))
      (hlengths layer (List.mem_append_right _ List.mem_cons_self))

/-- Two layers of one feature each. -/
def twoLayers : List LayerMessage :=
  [{ name := "a", version := 2, features := #[{ kind := some 1, geometry := #[9, 8, 5] }] },
   { name := "b", version := 1, features := #[{ kind := some 0, tags := #[0, 0] }],
     keys := #["k"], values := #[{ sint := some (-300) }] }]

/-- Cut behind the first layer and inside the second one. -/
theorem decode_cut_twoLayers :
    (∃ cut, Tile.decode ((writeTile twoLayers).take 16) = .ok cut ∧
      cut.HasLayers (twoLayers.take 1)) ∧
    ∃ fault, Tile.decode ((writeTile twoLayers).take 30) = .error (.truncated fault) := by
  have hwhole : Tile.decode (writeTile twoLayers) = .ok ⟨.ofList
      [("a", ⟨2, 4096, #[⟨none, .points [⟨4, -3⟩], .empty⟩]⟩),
       ("b", ⟨1, 4096, #[⟨none, .raw [], .ofList [("k", .int (-300))]⟩]⟩)]⟩ := by cbv
  have hlength : (writeTile twoLayers).length = 39 := by cbv
  have hne : ∀ n < 39, (writeTile twoLayers).take n ≠ writeTile twoLayers := fun n hn h => by
    have := congrArg List.length h
    rw [List.length_take] at this
    omega
  constructor
  · obtain ⟨cut, hcut, hlayers, -⟩ := (decode_cut hwhole (List.take_prefix 16 _)
      (hne 16 (by decide))).1 1 (by cbv)
    exact ⟨cut, hcut, hlayers⟩
  · refine (decode_cut hwhole (List.take_prefix 30 _) (hne 30 (by decide))).2 fun k hk => ?_
    have hk' := congrArg List.length hk
    rw [List.length_take, hlength] at hk'
    cases k with
    | zero => exact absurd hk' (by decide)
    | succ k =>
      cases k with
      | zero =>
        have hone : (writeTile (twoLayers.take 1)).length = 16 := by cbv
        rw [Nat.zero_add, hone] at hk'
        exact absurd hk' (by decide)
      | succ k =>
        rw [List.take_of_length_le (by rw [twoLayers]; simp), hlength] at hk'
        exact absurd hk' (by decide)

end Tiles

end TileScope
