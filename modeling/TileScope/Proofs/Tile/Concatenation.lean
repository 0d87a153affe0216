import TileScope.Proofs.Ordered.Lookup
import TileScope.Proofs.Tile.Cut

/-!
# Payloads one after the other

A payload that can be read, with another payload behind it. Reading takes the fields of the first
and then those of the second, so what the second one does is what it does alone, only onto the
layers in front of it (`readTile_append`). Decoding looks at the wire first and then at the layers
from the left, which settles which fault is reported (`Tile.decode_append`):

| first half | second half | both together |
| --- | --- | --- |
| readable | not readable | the error of the second half |
| does not decode | readable | the error of the first half |
| decodes | decodes, other names | the layers of both |
| decodes | anything else readable | an error |

So the order of payloads that decode together does not matter.
-/

namespace TileScope

open Wire Wire.Read

/-! ## Reading -/

section Readers

variable {α β γ σ : Type}

namespace Wire.Read

/-- Changing a value twice is changing it once by both. -/
theorem map_map (g : β → γ) (f : α → β) (p : Read α) : (p.map f).map g = p.map fun v => g (f v) := by
  funext i
  simp only [Read.map]
  cases p i <;> rfl

/-- Changing a value and naming its field may be done in any order. -/
theorem map_inField (g : α → β) (name : FieldName) (p : Read α) :
    (p.inField name).map g = (p.map g).inField name := by
  funext i
  simp only [Read.map, Read.inField]
  cases p i <;> rfl

/-- Changing the second of two values changes what both give. -/
theorem map_andThen (g : β → γ) (p : Read α) (f : α → Read β) :
    (p.andThen f).map g = p.andThen fun v => (f v).map g := by
  funext i
  simp only [Read.map, Read.andThen]
  cases p i with
  | error e => rfl
  | ok v =>
    dsimp only
    cases f v.value v.rest <;> rfl

/-- Steps that do the same from a changed state read the same rows from it. -/
theorem Row.changed {step : σ → Read σ} {g : σ → σ} (hstep : ∀ s, step (g s) = (step s).map g)
    {s t : σ} {c : List UInt8} (h : Row step s c t) : Row step (g s) c (g t) := by
  induction h with
  | nil s => exact .nil (g s)
  | @cons s t u c b first more ih => exact .cons (hstep s ▸ first.map g) ih

end Wire.Read

end Readers

section Reading

variable {a b : List UInt8} {messages : Array LayerMessage}

/-- A field of a tile puts its layer behind those that are there, whatever they are. -/
theorem mergeTile_append (k : Key) (front messages : Array LayerMessage) :
    mergeTile k (front ++ messages) = (mergeTile k messages).map (front ++ ·) := by
  unfold mergeTile
  split
  · simp only [map_inField, map_map, Array.append_push]
  · rw [map_map]

/-- A field adds the same layers, whatever layers were read before it. -/
theorem tileField_append (front messages : Array LayerMessage) :
    tileField (front ++ messages) = (tileField messages).map (front ++ ·) := by
  simp only [tileField, field, map_andThen, mergeTile_append]

/-- **Reading payloads one after the other.** Behind a payload that can be read, another one reads
as it does alone. -/
theorem readTile_append (ha : readTile a = .ok messages) (b : List UInt8) :
    readTile (a ++ b) = (readTile b).map (messages ++ ·) := by
  have hrow := readTile_eq_ok_iff.1 ha
  cases hb : readTile b with
  | ok more =>
    have hmore := (readTile_eq_ok_iff.1 hb).changed (tileField_append messages)
    rw [Array.append_empty] at hmore
    exact readTile_eq_ok_iff.2 (hrow.append hmore)
  | error f =>
    obtain ⟨c, t, front, rfl, ht, hc, hf⟩ := readTile_eq_error_iff.1 hb
    have hfront := hc.changed (tileField_append messages)
    rw [Array.append_empty] at hfront
    refine readTile_eq_error_iff.2 ⟨a ++ c, t, messages ++ front, ?_, ht, hrow.append hfront, ?_⟩
    · rw [List.append_assoc]
    · rw [tileField_append, run_map, hf]

/-- Whether a payload counts as cut short is seen at its end. -/
theorem isCutShort_append (hb : b ≠ []) (f : Fault) : isCutShort (a ++ b) f = isCutShort b f := by
  rw [isCutShort, isCutShort, endsMidField_append hb]

end Reading

/-! ## Decoding the layers -/

section Layers

variable {m r t : OrderedMap String Layer} {layers : List LayerMessage}

/-- Layers decode onto others if each of them decodes and their names are new. -/
theorem exists_decodeLayers_iff : (∃ r, decodeLayers m layers = .ok r) ↔
    (∀ l ∈ layers, ∃ d, l.decode = .ok d) ∧ (layers.map (·.name)).Nodup ∧
      ∀ l ∈ layers, m.get? l.name = none := by
  induction layers generalizing m with
  | nil => simp [decodeLayers]
  | cons l layers ih =>
    constructor
    · rintro ⟨r, h⟩
      obtain ⟨d, hnew, hd, h⟩ := decodeLayers_cons h
      obtain ⟨hdecode, hnodup, hnames⟩ := ih.1 ⟨r, h⟩
      -- the names behind are new to the map with this layer in it, so they are other names
      have hother : ∀ l' ∈ layers, l'.name ≠ l.name ∧ m.get? l'.name = none := fun l' hl' => by
        have hget := hnames l' hl'
        rw [OrderedMap.get?_insert] at hget
        split at hget
        · cases hget
        · next hne => exact ⟨hne, hget⟩
      refine ⟨List.forall_mem_cons.2 ⟨⟨d, hd⟩, hdecode⟩, ?_,
        List.forall_mem_cons.2 ⟨hnew, fun l' hl' => (hother l' hl').2⟩⟩
      refine List.nodup_cons.2 ⟨fun hmem => ?_, hnodup⟩
      obtain ⟨l', hl', hname⟩ := List.mem_map.1 hmem
      exact (hother l' hl').1 hname
    · rintro ⟨hdecode, hnodup, hnames⟩
      obtain ⟨⟨d, hd⟩, hdecode⟩ := List.forall_mem_cons.1 hdecode
      obtain ⟨hnew, hnames⟩ := List.forall_mem_cons.1 hnames
      obtain ⟨hname, hnodup⟩ := List.nodup_cons.1 hnodup
      have hnames' : ∀ l' ∈ layers, (m.insert l.name d).get? l'.name = none := fun l' hl' => by
        have hne : l'.name ≠ l.name := fun h => hname (List.mem_map.2 ⟨l', hl', h⟩)
        rw [OrderedMap.get?_insert, if_neg hne]
        exact hnames l' hl'
      obtain ⟨r, hr⟩ := ih.2 ⟨hdecode, hnodup, hnames'⟩
      refine ⟨r, ?_⟩
      rw [decodeLayers, OrderedMap.contains, hnew, if_neg (by simp), hd]
      exact hr

/-- Layers decoded onto others are those decoded from nothing, put beside them. -/
theorem eq_union_of_decodeLayers (hr : decodeLayers m layers = .ok r)
    (ht : decodeLayers .empty layers = .ok t) : m.Apart t ∧ r = m.union t := by
  obtain ⟨-, hget⟩ := get?_decodeLayers ht
  have hget : ∀ name layer, t.get? name = some layer ↔
      ∃ l ∈ layers, l.name = name ∧ l.decode = .ok layer := fun name layer => by
    rw [hget, OrderedMap.get?_empty]
    simp
  have hnames := (exists_decodeLayers_iff.1 ⟨r, hr⟩).2.2
  have happart : m.Apart t := fun name => by
    cases hname : t.get? name with
    | none => exact .inr rfl
    | some layer =>
      obtain ⟨l, hl, rfl, -⟩ := (hget name layer).1 hname
      exact .inl (hnames l hl)
  refine ⟨happart, OrderedMap.ext_get? fun name => Option.ext fun layer => ?_⟩
  rw [(get?_decodeLayers hr).2, ← hget, OrderedMap.get?_union]
  rcases happart name with hnone | hnone <;> simp [hnone]

/-- **Decoding onto layers.** Layers decode onto others just if they decode alone and share no name
with them, and then both stand side by side. -/
theorem decodeLayers_eq_ok_iff : decodeLayers m layers = .ok r ↔
    ∃ t, decodeLayers .empty layers = .ok t ∧ m.Apart t ∧ r = m.union t := by
  constructor
  · intro hr
    obtain ⟨hdecode, hnodup, -⟩ := exists_decodeLayers_iff.1 ⟨r, hr⟩
    obtain ⟨t, ht⟩ := (exists_decodeLayers_iff (m := .empty)).2 ⟨hdecode, hnodup, fun _ _ => rfl⟩
    exact ⟨t, ht, eq_union_of_decodeLayers hr ht⟩
  · rintro ⟨t, ht, happart, rfl⟩
    obtain ⟨hdecode, hnodup, -⟩ := exists_decodeLayers_iff.1 ⟨t, ht⟩
    have hnames : ∀ l ∈ layers, m.get? l.name = none := fun l hl => by
      obtain ⟨d, hd⟩ := hdecode l hl
      have hname := ((get?_decodeLayers ht).2 l.name d).2 (.inr ⟨l, hl, rfl, hd⟩)
      exact (happart l.name).resolve_right (by simp [hname])
    obtain ⟨r, hr⟩ := exists_decodeLayers_iff.2 ⟨hdecode, hnodup, hnames⟩
    rw [hr, (eq_union_of_decodeLayers hr ht).2]

end Layers

/-! ## Decoding payloads -/

section Payloads

variable {a b : List UInt8} {messages more : Array LayerMessage} {s t u : Tile}

/-- A payload that can be read decodes as its layers do. -/
theorem decode_of_readTile (h : readTile b = .ok messages) :
    Tile.decode b = (decodeLayers .empty messages.toList).map Tile.mk := by
  rw [Tile.decode, h]

/-- A payload decodes if it can be read and its layers decode. -/
theorem decode_eq_ok_iff : Tile.decode b = .ok t ↔
    ∃ messages, readTile b = .ok messages ∧ decodeLayers .empty messages.toList = .ok t.layers := by
  rw [Tile.decode]
  cases readTile b with
  | error f => simp
  | ok messages =>
    cases h : decodeLayers .empty messages.toList with
    | error e => simp [Except.map, h]
    | ok r =>
      obtain ⟨layers⟩ := t
      simp [Except.map, h]

/-- Behind a readable payload, one that cannot be read fails as it does alone. -/
theorem decode_append_of_unreadable {f : Fault} (ha : readTile a = .ok messages)
    (hb : readTile b = .error f) : Tile.decode (a ++ b) = Tile.decode b := by
  have hne : b ≠ [] := by
    rintro rfl
    rw [readTile_eq_ok_iff.2 (.nil _)] at hb
    cases hb
  have hread : readTile (a ++ b) = .error f := by
    rw [readTile_append ha, hb]
    rfl
  simp only [Tile.decode, hread, hb, isCutShort_append hne]

/-- Behind a payload whose layers do not decode, one that can be read changes nothing. -/
theorem decode_append_of_error {e : DecodeError} (ha : readTile a = .ok messages)
    (hb : readTile b = .ok more) (he : Tile.decode a = .error e) :
    Tile.decode (a ++ b) = .error e := by
  have hread : readTile (a ++ b) = .ok (messages ++ more) := by
    rw [readTile_append ha, hb]
    rfl
  rw [decode_of_readTile ha] at he
  rw [decode_of_readTile hread, Array.toList_append, decodeLayers_append]
  cases hl : decodeLayers .empty messages.toList with
  | ok r => simp [hl, Except.map] at he
  | error e' => rwa [hl] at he

/-- **When two payloads decode together:** just if each of them decodes and they share no name. -/
theorem decode_append_eq_ok_iff (ha : readTile a = .ok messages) :
    Tile.decode (a ++ b) = .ok u ↔ ∃ s t, Tile.decode a = .ok s ∧ Tile.decode b = .ok t ∧
      s.layers.Apart t.layers ∧ u.layers = s.layers.union t.layers := by
  constructor
  · intro h
    obtain ⟨all, hread, hdecode⟩ := decode_eq_ok_iff.1 h
    rw [readTile_append ha] at hread
    cases hb : readTile b with
    | error f => simp [hb, Except.map] at hread
    | ok more =>
      rw [hb] at hread
      obtain rfl : messages ++ more = all := Except.ok.inj hread
      -- The layers of the second payload are decoded onto those of the first.
      rw [Array.toList_append, decodeLayers_append] at hdecode
      cases hs : decodeLayers .empty messages.toList with
      | error e => simp [hs, Except.bind] at hdecode
      | ok s =>
        rw [hs] at hdecode
        obtain ⟨t, ht, happart, hu⟩ := decodeLayers_eq_ok_iff.1 hdecode
        exact ⟨⟨s⟩, ⟨t⟩, decode_eq_ok_iff.2 ⟨_, ha, hs⟩, decode_eq_ok_iff.2 ⟨_, hb, ht⟩,
          happart, hu⟩
  · rintro ⟨s, t, hs, ht, happart, hu⟩
    obtain ⟨messages', ha', hs⟩ := decode_eq_ok_iff.1 hs
    obtain ⟨more, hb, ht⟩ := decode_eq_ok_iff.1 ht
    obtain rfl : messages = messages' := Except.ok.inj (ha.symm.trans ha')
    refine decode_eq_ok_iff.2 ⟨messages ++ more, ?_, ?_⟩
    · rw [readTile_append ha, hb]
      rfl
    · rw [Array.toList_append, decodeLayers_append, hs]
      exact decodeLayers_eq_ok_iff.2 ⟨t.layers, ht, happart, hu⟩

/-- Payloads that decode together decode to the same tile in any order. -/
theorem decode_flatten_perm {parts parts' : List (List UInt8)} (h : parts.Perm parts')
    (hparts : ∀ p ∈ parts, ∃ messages, readTile p = .ok messages)
    (ht : Tile.decode parts.flatten = .ok t) : Tile.decode parts'.flatten = .ok t := by
  induction h generalizing t with
  | nil => exact ht
  | @cons p parts parts' _ ih =>
    obtain ⟨⟨messages, hp⟩, hparts⟩ := List.forall_mem_cons.1 hparts
    rw [List.flatten_cons, decode_append_eq_ok_iff hp] at ht ⊢
    obtain ⟨s, u, hs, hu, happart, hunion⟩ := ht
    exact ⟨s, u, hs, ih hparts hu, happart, hunion⟩
  | swap p q parts =>
    obtain ⟨⟨messages, hq⟩, hparts⟩ := List.forall_mem_cons.1 hparts
    obtain ⟨⟨more, hp⟩, -⟩ := List.forall_mem_cons.1 hparts
    simp only [List.flatten_cons, decode_append_eq_ok_iff hp, decode_append_eq_ok_iff hq] at ht ⊢
    obtain ⟨s, u, hs, ⟨t', r, ht', hr, happart', hu⟩, happart, hunion⟩ := ht
    rw [hu] at happart hunion
    obtain ⟨hst, hsr⟩ := OrderedMap.apart_union_iff.1 happart
    refine ⟨t', ⟨s.layers.union r.layers⟩, ht', ⟨s, r, hs, hr, hsr, rfl⟩,
      OrderedMap.apart_union_iff.2 ⟨hst.symm, happart'⟩, ?_⟩
    rw [hunion, ← OrderedMap.union_assoc, ← OrderedMap.union_assoc, hst.union_comm]
  | trans h _ ih ih' =>
    exact ih' (fun p hp => hparts p (h.mem_iff.2 hp)) (ih hparts ht)

/-- **The law of payloads one after the other.** Behind a payload that can be read:
a payload that cannot be read gives its own error; a readable one leaves the error of the first
half; if both decode and share no name, the layers of both are there; in all other cases there is
an error. The order of readable parts, such as the fields of single layers, does not matter. -/
theorem Tile.decode_append (ha : readTile a = .ok messages) (b : List UInt8) :
    (∀ f, readTile b = .error f → ∃ e, decode b = .error e ∧ decode (a ++ b) = .error e) ∧
    (∀ more e, readTile b = .ok more → decode a = .error e → decode (a ++ b) = .error e) ∧
    (∀ s t, decode a = .ok s → decode b = .ok t → s.layers.Apart t.layers →
      decode (a ++ b) = .ok ⟨s.layers.union t.layers⟩) ∧
    (∀ s more, decode a = .ok s → readTile b = .ok more →
      ((∃ e, decode b = .error e) ∨ ∃ t, decode b = .ok t ∧ ¬ s.layers.Apart t.layers) →
      ∃ e, decode (a ++ b) = .error e) ∧
    ∀ parts parts' : List (List UInt8), parts.Perm parts' →
      (∀ p ∈ parts, ∃ messages, readTile p = .ok messages) →
      ∀ t, decode parts.flatten = .ok t ↔ decode parts'.flatten = .ok t := by
  refine ⟨fun f hb => ?_, fun more e hb he => decode_append_of_error ha hb he,
    fun s t hs ht happart => ?_, fun s more hs hb hrest => ?_, fun parts parts' h hparts t => ?_⟩
  · rw [decode_append_of_unreadable ha hb]
    exact ⟨_, by rw [decode, hb], by rw [decode, hb]⟩
  · exact (decode_append_eq_ok_iff ha).2 ⟨s, t, hs, ht, happart, rfl⟩
  · cases h : decode (a ++ b) with
    | error e => exact ⟨e, rfl⟩
    | ok u =>
      obtain ⟨s', t, hs', ht, happart, -⟩ := (decode_append_eq_ok_iff ha).1 h
      obtain rfl : s = s' := Except.ok.inj (hs.symm.trans hs')
      rcases hrest with ⟨e, he⟩ | ⟨t', ht', hshared⟩
      · rw [he] at ht
        cases ht
      · obtain rfl : t = t' := Except.ok.inj (ht.symm.trans ht')
        exact absurd happart hshared
  · exact ⟨decode_flatten_perm h hparts,
      decode_flatten_perm h.symm fun p hp => hparts p (h.mem_iff.2 hp)⟩

/-- The payload of a layer without features, with a name of one byte. -/
def emptyLayer (name version : UInt8) : List UInt8 := [0x1a, 0x05, 0x0a, 0x01, name, 0x78, version]

/-- A layer with the key of another one behind it, with a layer of another name in either order,
with a layer of the same name, and behind a layer whose version is not read. -/
theorem decode_append_emptyLayers :
    (∃ e, Tile.decode [0x1a] = .error e ∧ Tile.decode (emptyLayer 97 2 ++ [0x1a]) = .error e) ∧
    (∃ u, Tile.decode [emptyLayer 97 2, emptyLayer 98 1].flatten = .ok u ∧
      Tile.decode [emptyLayer 98 1, emptyLayer 97 2].flatten = .ok u) ∧
    (∃ e, Tile.decode (emptyLayer 97 2 ++ emptyLayer 97 1) = .error e) ∧
    Tile.decode (emptyLayer 98 3 ++ emptyLayer 97 1) = .error (.unsupportedVersion "b" 3) := by
  have hread : readTile (emptyLayer 97 2) = .ok #[{ name := "a", version := 2 }] := by cbv
  have hother : readTile (emptyLayer 98 1) = .ok #[{ name := "b", version := 1 }] := by cbv
  have hsame : readTile (emptyLayer 97 1) = .ok #[{ name := "a", version := 1 }] := by cbv
  have hlater : readTile (emptyLayer 98 3) = .ok #[{ name := "b", version := 3 }] := by cbv
  have hcut : readTile [0x1a] = .error ⟨.varint, [FieldNames.layers]⟩ := by cbv
  have ha : Tile.decode (emptyLayer 97 2) = .ok ⟨.ofList [("a", ⟨2, 4096, #[]⟩)]⟩ := by cbv
  have hb : Tile.decode (emptyLayer 98 1) = .ok ⟨.ofList [("b", ⟨1, 4096, #[]⟩)]⟩ := by cbv
  have hc : Tile.decode (emptyLayer 97 1) = .ok ⟨.ofList [("a", ⟨1, 4096, #[]⟩)]⟩ := by cbv
  have hlaw := Tile.decode_append hread
  refine ⟨(hlaw [0x1a]).1 _ hcut, ?_, ?_, ?_⟩
  · have happart : OrderedMap.Apart (.ofList [("a", (⟨2, 4096, #[]⟩ : Layer))])
        (.ofList [("b", ⟨1, 4096, #[]⟩)]) := fun name => by
      by_cases h : name = "a" <;> simp [OrderedMap.ofList, OrderedMap.get?_insert, h]
    have hunion := (hlaw (emptyLayer 98 1)).2.2.1 _ _ ha hb happart
    refine ⟨_, hunion, ((hlaw []).2.2.2.2 _ _ (.swap _ _ _) ?_ _).1 hunion⟩
    simp [hread, hother]
  · refine (hlaw (emptyLayer 97 1)).2.2.2.1 _ _ ha hsame (.inr ⟨_, hc, fun happart => ?_⟩)
    rcases happart "a" with h | h <;>
      simp [OrderedMap.ofList, OrderedMap.get?_insert] at h
  · exact (Tile.decode_append hlater (emptyLayer 97 1)).2.1 _ _ hsame (by cbv)

end Payloads

end TileScope
