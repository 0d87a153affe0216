import TileScope.Proofs.InOrder
import TileScope.Proofs.Search.Matching
import TileScope.Proofs.Tile.Concatenation

/-!
# Where a feature comes from

Every feature of a decoded tile is one of the payload: it stands at the place of its message, in the
layer of the same name, and its geometry and properties are those of that message
(`Tile.exists_message`).
-/

namespace TileScope

namespace LayerMessage

variable {l : LayerMessage}

/-- A layer that decodes has a version that is supported, and its features decode. -/
theorem decode_eq_ok {layer : Layer} (h : l.decode = .ok layer) :
    (l.version = 1 ∨ l.version = 2) ∧ ∃ features, l.features.toList.mapM l.feature = .ok features ∧
      layer = ⟨l.version, l.extent.getD defaultExtent, features.toArray⟩ := by
  rw [decode] at h
  split at h
  · next hversion =>
    cases hfeatures : l.features.toList.mapM l.feature with
    | error flaw =>
      rw [hfeatures] at h
      cases h
    | ok features =>
      rw [hfeatures] at h
      exact ⟨hversion, features, rfl, (Except.ok.inj h).symm⟩
  · cases h

/-- What is drawn is what the message asks for. -/
theorem drawGeometry_of_feature {f : FeatureMessage} {g : Feature} {shape : Shape}
    (h : l.feature f = .ok g) (hshape : f.shape? = some shape) :
    drawGeometry shape f.geometry.toList = .ok g.geometry := by
  rw [feature, hshape] at h
  cases hdrawn : drawGeometry shape f.geometry.toList with
  | error fault =>
    simp only [hdrawn] at h
    cases h
  | ok geometry =>
    simp only [hdrawn] at h
    cases hproperties : l.properties f.tags.toList with
    | error flaw =>
      rw [hproperties] at h
      cases h
    | ok properties =>
      rw [hproperties] at h
      cases h
      rfl

/-- A feature of no known kind keeps its integers. -/
theorem geometry_of_feature {f : FeatureMessage} {g : Feature} (h : l.feature f = .ok g)
    (hshape : f.shape? = none) : g.geometry = .raw f.geometry.toList := by
  rw [feature, hshape] at h
  cases hproperties : l.properties f.tags.toList with
  | error flaw =>
    rw [hproperties] at h
    cases h
  | ok properties =>
    rw [hproperties] at h
    cases h
    rfl

end LayerMessage

/-- A payload has a layer with a feature at a place. -/
def HoldsFeature (b : List UInt8) (l : LayerMessage) (index : Nat) (f : FeatureMessage) : Prop :=
  (∃ messages, readTile b = .ok messages ∧ l ∈ messages.toList) ∧ l.features[index]? = some f

/-- **Every feature of a tile comes from the payload.** -/
theorem Tile.exists_message {b : List UInt8} {t : Tile} (h : Tile.decode b = .ok t)
    {layer : String} {m : Match} (hhas : t.Has layer m) :
    ∃ l f, HoldsFeature b l m.index f ∧ l.name = layer ∧ l.feature f = .ok m.feature := by
  obtain ⟨messages, hread, hlayers⟩ := decode_eq_ok_iff.1 h
  obtain ⟨decoded, hdecoded, hfeature⟩ := hhas
  rcases ((get?_decodeLayers hlayers).2 layer decoded).1 hdecoded with hempty | ⟨l, hl, hname, hl'⟩
  · cases hempty
  · obtain ⟨-, features, hfeatures, rfl⟩ := LayerMessage.decode_eq_ok hl'
    rw [List.getElem?_toArray] at hfeature
    obtain ⟨f, hf, hdone⟩ := getElem?_of_mapM hfeatures hfeature
    rw [Array.getElem?_toList] at hf
    exact ⟨l, f, ⟨⟨messages, hread, hl⟩, hf⟩, hname, hdone⟩

end TileScope
