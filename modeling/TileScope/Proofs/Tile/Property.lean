import TileScope.Proofs.Geometry.Exact
import TileScope.Proofs.Ordered.Lookup

/-!
# Properties are looked up in two dictionaries

Tags are read as pairs. A pair stands for an entry of its own or is at fault by itself
(`LayerMessage.entry`), and the properties of tags are the entries of the pairs, put onto a map one
after the other (`LayerMessage.lookUpTags_eq`). So it is the first pair at fault that is blamed, and
of the pairs whose keys are one text the last one gives the value (`properties_exact`).
-/

namespace TileScope

/-! ## Pairs of tags -/

/-- Tags as pairs of a key and a value. A key without a value is left out. -/
def tagPairs : List UInt32 → List (UInt32 × UInt32)
  | key :: value :: rest => (key, value) :: tagPairs rest
  | _ => []

namespace LayerMessage

/-- Both tags of a pair are places in the dictionaries of the layer. -/
def InRange (l : LayerMessage) (p : UInt32 × UInt32) : Prop :=
  p.1.toNat < l.keys.size ∧ p.2.toNat < l.values.size

instance (l : LayerMessage) (p : UInt32 × UInt32) : Decidable (l.InRange p) :=
  inferInstanceAs (Decidable (_ ∧ _))

/-- The key of a pair is a text. -/
def Names (l : LayerMessage) (p : UInt32 × UInt32) (k : String) : Prop :=
  l.keys[p.1.toNat]? = some k

instance (l : LayerMessage) (p : UInt32 × UInt32) (k : String) : Decidable (l.Names p k) :=
  inferInstanceAs (Decidable (_ = _))

/-- The value of a pair is that of a message. -/
def Gives (l : LayerMessage) (p : UInt32 × UInt32) (v : PropertyValue) : Prop :=
  ∃ message, l.values[p.2.toNat]? = some message ∧ message.property = v

/-- Of the pairs whose key is a text, the last one gives a value. -/
def LastGives (l : LayerMessage) (pairs : List (UInt32 × UInt32)) (k : String)
    (v : PropertyValue) : Prop :=
  ∃ before p after, pairs = before ++ p :: after ∧ (l.Names p k ∧ l.Gives p v) ∧
    ∀ q ∈ after, ¬ l.Names q k

/-- What is wrong with tags: their number, or else the first pair that is not in range. Of such a
pair the key is blamed, if it is not in range. -/
inductive Blames (l : LayerMessage) (tags : List UInt32) : Flaw → Prop
  | number (h : tags.length % 2 = 1) : Blames l tags (.oddTags l.name)
  | key {before p after} (h : tags.length % 2 = 0) (hpairs : tagPairs tags = before ++ p :: after)
      (hbefore : ∀ q ∈ before, l.InRange q) (hkey : l.keys.size ≤ p.1.toNat) :
      Blames l tags (.keyIndex p.1 l.name)
  | value {before p after} (h : tags.length % 2 = 0)
      (hpairs : tagPairs tags = before ++ p :: after) (hbefore : ∀ q ∈ before, l.InRange q)
      (hkey : p.1.toNat < l.keys.size) (hvalue : l.values.size ≤ p.2.toNat) :
      Blames l tags (.valueIndex p.2 l.name)

/-- The entry that a pair stands for. -/
def entry (l : LayerMessage) (p : UInt32 × UInt32) : Except Flaw (String × PropertyValue) :=
  match l.keys[p.1.toNat]? with
  | none => .error (.keyIndex p.1 l.name)
  | some name =>
    match l.values[p.2.toNat]? with
    | none => .error (.valueIndex p.2 l.name)
    | some message => .ok (name, message.property)

section Entry

variable {l : LayerMessage} {p : UInt32 × UInt32}

/-- A pair of tags is the entry whose key it names and whose value it gives. -/
theorem entry_eq_ok_iff {e : String × PropertyValue} :
    l.entry p = .ok e ↔ l.Names p e.1 ∧ l.Gives p e.2 := by
  unfold entry Names Gives
  obtain ⟨k, v⟩ := e
  cases l.keys[p.1.toNat]? <;> cases l.values[p.2.toNat]? <;> simp

/-- A pair of tags is refused for its key, or for its value if the key is in range. -/
theorem entry_eq_error_iff {flaw : Flaw} : l.entry p = .error flaw ↔
    (l.keys.size ≤ p.1.toNat ∧ flaw = .keyIndex p.1 l.name) ∨
      (p.1.toNat < l.keys.size ∧ l.values.size ≤ p.2.toNat ∧
        flaw = .valueIndex p.2 l.name) := by
  unfold entry
  rw [← Nat.not_le, ← Array.getElem?_eq_none_iff, ← Array.getElem?_eq_none_iff]
  cases l.keys[p.1.toNat]? <;> cases l.values[p.2.toNat]? <;> simp [eq_comm]

/-- The pairs of tags with an entry are those in range. -/
theorem exists_entry_iff : (∃ e, l.entry p = .ok e) ↔ l.InRange p := by
  cases h : l.entry p with
  | error flaw =>
    refine ⟨nofun, fun hrange => ?_⟩
    rcases entry_eq_error_iff.1 h with ⟨hkey, -⟩ | ⟨-, hvalue, -⟩
    · exact absurd hrange.1 (Nat.not_lt.2 hkey)
    · exact absurd hrange.2 (Nat.not_lt.2 hvalue)
  | ok e =>
    obtain ⟨hkey, message, hmessage, -⟩ := entry_eq_ok_iff.1 h
    exact ⟨fun _ => ⟨(Array.getElem?_eq_some_iff.1 hkey).1,
      (Array.getElem?_eq_some_iff.1 hmessage).1⟩, fun _ => ⟨e, rfl⟩⟩

end Entry

section Tags

variable {l : LayerMessage} {tags : List UInt32} {m : OrderedMap String PropertyValue}

/-- Looking up tags puts the entries of the pairs onto a map. -/
theorem lookUpTags_eq (m : OrderedMap String PropertyValue) (tags : List UInt32) :
    l.lookUpTags m tags
      = ((tagPairs tags).mapM l.entry).map (List.foldl (fun m e => m.insert e.1 e.2) m) := by
  -- Over all maps to start from, since a pair is put onto what the pairs in front of it gave.
  induction tags using tagPairs.induct generalizing m with
  | case1 key value rest ih =>
    rw [lookUpTags, tagPairs, List.mapM_cons, entry]
    cases l.keys[key.toNat]? with
    | none => rfl
    | some name =>
      cases l.values[value.toNat]? with
      | none => rfl
      | some message =>
        show l.lookUpTags (m.insert name message.property) rest = _
        rw [ih]
        cases (tagPairs rest).mapM l.entry <;> rfl
  | case2 tags hshort =>
    rw [lookUpTags, tagPairs]
    · rfl
    all_goals exact hshort

/-- Tags are properties if they come in pairs that all have entries, inserted in order. -/
theorem properties_eq_ok_iff : l.properties tags = .ok m ↔
    tags.length % 2 = 0 ∧ ∃ entries, (tagPairs tags).mapM l.entry = .ok entries ∧
      entries.foldl (fun m e => m.insert e.1 e.2) .empty = m := by
  unfold properties
  split
  · next h =>
    rw [lookUpTags_eq]
    cases (tagPairs tags).mapM l.entry <;> simp [Except.map, h]
  · next h => simp [h]

/-- Tags are at fault for their number, or the first pair without an entry is at fault. -/
theorem blames_iff {flaw : Flaw} : l.Blames tags flaw ↔
    (tags.length % 2 = 1 ∧ flaw = .oddTags l.name) ∨
      (tags.length % 2 = 0 ∧ (tagPairs tags).mapM l.entry = .error flaw) := by
  constructor
  · intro h
    cases h with
    | number h => exact .inl ⟨h, rfl⟩
    | key h hpairs hbefore hkey =>
      exact .inr ⟨h, mapM_eq_error_iff.2 ⟨_, _, _, hpairs,
        fun q hq => exists_entry_iff.2 (hbefore q hq), entry_eq_error_iff.2 (.inl ⟨hkey, rfl⟩)⟩⟩
    | value h hpairs hbefore hkey hvalue =>
      exact .inr ⟨h, mapM_eq_error_iff.2 ⟨_, _, _, hpairs,
        fun q hq => exists_entry_iff.2 (hbefore q hq),
        entry_eq_error_iff.2 (.inr ⟨hkey, hvalue, rfl⟩)⟩⟩
  · rintro (⟨h, rfl⟩ | ⟨h, herror⟩)
    · exact .number h
    · obtain ⟨before, p, after, hpairs, hentries, hp⟩ := mapM_eq_error_iff.1 herror
      have hbefore : ∀ q ∈ before, l.InRange q := fun q hq => exists_entry_iff.1 (hentries q hq)
      rcases entry_eq_error_iff.1 hp with ⟨hkey, rfl⟩ | ⟨hkey, hvalue, rfl⟩
      · exact .key h hpairs hbefore hkey
      · exact .value h hpairs hbefore hkey hvalue

/-- Tags are refused for what they are to be blamed for. -/
theorem properties_eq_error_iff {flaw : Flaw} :
    l.properties tags = .error flaw ↔ l.Blames tags flaw := by
  rw [blames_iff, properties]
  split
  · next h =>
    rw [lookUpTags_eq]
    cases (tagPairs tags).mapM l.entry <;> simp [Except.map, h]
  · next h =>
    have hodd : tags.length % 2 = 1 := by omega
    simp [hodd, eq_comm]

/-- Tags have properties if and only if every key has a value and every pair is in range. -/
theorem exists_properties_iff : (∃ m, l.properties tags = .ok m) ↔
    tags.length % 2 = 0 ∧ ∀ p ∈ tagPairs tags, l.InRange p := by
  constructor
  · rintro ⟨m, hm⟩
    obtain ⟨h, entries, hentries, -⟩ := properties_eq_ok_iff.1 hm
    refine ⟨h, fun p hp => exists_entry_iff.1 ?_⟩
    have hmem : l.entry p ∈ entries.map .ok := mapM_eq_ok_iff.1 hentries ▸ List.mem_map_of_mem hp
    obtain ⟨e, -, he⟩ := List.mem_map.1 hmem
    exact ⟨e, he.symm⟩
  · rintro ⟨h, hrange⟩
    cases hm : l.properties tags with
    | ok m => exact ⟨m, rfl⟩
    | error flaw =>
      rcases blames_iff.1 (properties_eq_error_iff.1 hm) with ⟨hodd, -⟩ | ⟨-, herror⟩
      · omega
      · obtain ⟨before, p, after, hpairs, -, hp⟩ := mapM_eq_error_iff.1 herror
        obtain ⟨e, he⟩ := exists_entry_iff.2 (hrange p (by simp [hpairs]))
        rw [he] at hp
        cases hp

/-! ### Entries against pairs -/

variable {pairs : List (UInt32 × UInt32)} {entries : List (String × PropertyValue)}
variable {k : String} {v : PropertyValue}

/-- A pair with an entry names its key and no other. -/
theorem names_iff {p : UInt32 × UInt32} {e : String × PropertyValue} (h : l.entry p = .ok e) :
    l.Names p k ↔ e.1 = k := by
  rw [Names, (entry_eq_ok_iff.1 h).1, Option.some.injEq]

/-- What holds of the key of a pair holds of the key of an entry. -/
theorem exists_names_iff (h : pairs.map l.entry = entries.map .ok) :
    (∃ p ∈ pairs, l.Names p k) ↔ ∃ e ∈ entries, e.1 = k := by
  constructor
  · rintro ⟨p, hp, hname⟩
    obtain ⟨e, he, hentry⟩ := List.mem_map.1 (h ▸ List.mem_map_of_mem hp)
    exact ⟨e, he, (names_iff hentry.symm).1 hname⟩
  · rintro ⟨e, he, hname⟩
    have hmem : .ok e ∈ pairs.map l.entry := h ▸ List.mem_map_of_mem he
    obtain ⟨p, hp, hentry⟩ := List.mem_map.1 hmem
    exact ⟨p, hp, (names_iff hentry).2 hname⟩

/-- The last entry with a key is that of the last pair with the key. -/
theorem lastGives_iff (h : pairs.map l.entry = entries.map .ok) :
    l.LastGives pairs k v ↔
      ∃ before after, entries = before ++ (k, v) :: after ∧ ∀ e ∈ after, e.1 ≠ k := by
  constructor
  · rintro ⟨before, p, after, rfl, hp, hlast⟩
    rw [List.map_append, List.map_cons] at h
    obtain ⟨before', rest, rfl, -, hrest⟩ := List.map_eq_append_iff.1 h.symm
    obtain ⟨e, after', rfl, he, hafter⟩ := List.map_eq_cons_iff.1 hrest
    obtain rfl : e = (k, v) := Except.ok.inj (he.trans (entry_eq_ok_iff.2 hp))
    refine ⟨before', after', rfl, fun e he hk => ?_⟩
    obtain ⟨q, hq, hname⟩ := (exists_names_iff hafter.symm).2 ⟨e, he, hk⟩
    exact hlast q hq hname
  · rintro ⟨before, after, rfl, hlast⟩
    rw [List.map_append, List.map_cons] at h
    obtain ⟨before', rest, rfl, -, hrest⟩ := List.map_eq_append_iff.1 h
    obtain ⟨p, after', rfl, hp, hafter⟩ := List.map_eq_cons_iff.1 hrest
    refine ⟨before', p, after', rfl, entry_eq_ok_iff.1 hp, fun q hq hname => ?_⟩
    obtain ⟨e, he, hk⟩ := (exists_names_iff hafter).1 ⟨q, hq, hname⟩
    exact hlast e he hk

/-- The keys of the properties are those that a pair names. -/
theorem contains_iff_of_properties (h : l.properties tags = .ok m) :
    m.contains k = true ↔ ∃ p ∈ tagPairs tags, l.Names p k := by
  obtain ⟨-, entries, hentries, rfl⟩ := properties_eq_ok_iff.1 h
  rw [exists_names_iff (mapM_eq_ok_iff.1 hentries), OrderedMap.contains,
    Option.isSome_iff_ne_none, Ne, OrderedMap.get?_foldl_insert_eq_none_iff]
  simp

/-- A key has the value that the last pair naming it gives. -/
theorem get?_of_properties (h : l.properties tags = .ok m) :
    m.get? k = some v ↔ l.LastGives (tagPairs tags) k v := by
  obtain ⟨-, entries, hentries, rfl⟩ := properties_eq_ok_iff.1 h
  rw [lastGives_iff (mapM_eq_ok_iff.1 hentries), OrderedMap.get?_foldl_insert_eq_some_iff]
  simp

end Tags

/-- Tags that cannot be looked up make their feature malformed, if its geometry is drawn. -/
theorem feature_eq_error {l : LayerMessage} {f : FeatureMessage} {flaw : Flaw}
    (hdrawn : ∀ shape, f.shape? = some shape → ∃ g, drawGeometry shape f.geometry.toList = .ok g)
    (h : l.properties f.tags.toList = .error flaw) : l.feature f = .error flaw := by
  rw [feature]
  cases hshape : f.shape? with
  | none =>
    simp only [h]
    rfl
  | some shape =>
    obtain ⟨g, hg⟩ := hdrawn shape hshape
    simp only [hg, h]
    rfl

/-- A flaw of tags names the layer. -/
theorem message_of_blames {l : LayerMessage} {tags : List UInt32} {flaw : Flaw}
    (h : l.Blames tags flaw) :
    ∃ what : String, flaw.message = s!"{what} in layer '{l.name}'" := by
  have hrange (index : String) : ∃ what : String,
      index ++ " out of range in layer '" ++ l.name ++ "'" = s!"{what} in layer '{l.name}'" := by
    have hwords : " out of range in layer '" = " out of range" ++ " in layer '" := rfl
    refine ⟨index ++ " out of range", ?_⟩
    rw [hwords, ← String.append_assoc]
    rfl
  cases h with
  | number => exact ⟨"odd number of feature tags", rfl⟩
  | key => exact hrange _
  | value => exact hrange _

/-- **Properties are a look-up where the last pair wins.** Tags have properties if and only if every
key has a value and every pair is in range of the dictionaries. The properties then hold the texts
that the keys stand for and no others, each with the value of the last pair whose key stands for it,
at whatever places of the dictionary it is. Otherwise the tags are malformed by their number or the
first pair that is not in range, its key before its value; the flaw names the layer, and it is what
the layer fails with if its features are sound up to the properties of the one with the tags. -/
theorem properties_exact (l : LayerMessage) (tags : List UInt32) :
    ((∃ m, l.properties tags = .ok m) ↔
      tags.length % 2 = 0 ∧ ∀ p ∈ tagPairs tags, l.InRange p) ∧
    (∀ m, l.properties tags = .ok m →
      (∀ k, m.contains k = true ↔ ∃ p ∈ tagPairs tags, l.Names p k) ∧
        ∀ k v, m.get? k = some v ↔ l.LastGives (tagPairs tags) k v) ∧
    (∀ flaw, l.properties tags = .error flaw ↔ l.Blames tags flaw) ∧
    (∀ flaw, l.properties tags = .error flaw →
      (∃ what : String, flaw.message = s!"{what} in layer '{l.name}'") ∧
        ∀ (before : List FeatureMessage) (f : FeatureMessage) (after),
          l.version = 1 ∨ l.version = 2 →
          l.features.toList = before ++ f :: after →
          (∀ g ∈ before, ∃ r, l.feature g = .ok r) →
          (∀ shape, f.shape? = some shape →
            ∃ g, drawGeometry shape f.geometry.toList = .ok g) →
          f.tags.toList = tags →
          l.decode = .error (.malformed flaw)) := by
  refine ⟨exists_properties_iff, fun m hm => ?_, fun flaw => properties_eq_error_iff,
    fun flaw hflaw => ⟨message_of_blames (properties_eq_error_iff.1 hflaw), ?_⟩⟩
  · exact ⟨fun k => contains_iff_of_properties hm, fun k v => get?_of_properties hm⟩
  · intro before f after hversion hfeatures hbefore hdrawn htags
    subst htags
    exact decode_eq_error hversion hfeatures hbefore (feature_eq_error hdrawn hflaw)

/-- A layer with one text at two places of its dictionary of keys. The second pair of its second
feature has neither a key nor a value in range. -/
def twice : LayerMessage where
  name := "roads"
  keys := #["name", "kind", "name"]
  values := #[{ text := some "A 1" }, { int := some 7 }]
  features := #[{ tags := #[0, 0, 1, 1, 2, 1, 1, 0] }, { tags := #[2, 1, 5, 9, 3, 3] }]

/-- Of two pairs with one key the last one counts, and of two pairs out of range the first one is
blamed. -/
theorem properties_exact_twice :
    (∃ m, twice.properties [0, 0, 1, 1, 2, 1, 1, 0] = .ok m ∧ m.contains "name" = true ∧
      m.get? "name" = some (.int 7)) ∧
    twice.properties [2, 1, 5, 9, 3, 3] = .error (.keyIndex 5 "roads") ∧
    twice.decode = .error (.malformed (.keyIndex 5 "roads")) := by
  obtain ⟨hexists, hfound, -⟩ := properties_exact twice [0, 0, 1, 1, 2, 1, 1, 0]
  obtain ⟨-, -, hblames, hfails⟩ := properties_exact twice [2, 1, 5, 9, 3, 3]
  have hpairs : tagPairs [0, 0, 1, 1, 2, 1, 1, 0] = [(0, 0), (1, 1), (2, 1), (1, 0)] := by
    simp only [tagPairs]
  have hpairs' : tagPairs [2, 1, 5, 9, 3, 3] = [(2, 1)] ++ (5, 9) :: [(3, 3)] := by
    simp only [tagPairs, List.singleton_append]
  rw [hpairs] at hexists hfound
  have hrange : ∀ p ∈ [(0, 0), (1, 1), (2, 1), (1, 0)], twice.InRange p := by
    rw [← List.all_iff_forall_prop]
    decide
  have hrange' : ∀ p ∈ [(2, 1)], twice.InRange p := by
    simp only [List.forall_mem_singleton]
    decide
  have hflaw : twice.properties [2, 1, 5, 9, 3, 3] = .error (.keyIndex 5 "roads") :=
    (hblames _).2 (.key rfl hpairs' hrange' (by decide))
  obtain ⟨m, hm⟩ := hexists.2 ⟨rfl, hrange⟩
  obtain ⟨hcontains, hlast⟩ := hfound m hm
  refine ⟨⟨m, hm, ?_, ?_⟩, hflaw, ?_⟩
  · exact (hcontains "name").2 ⟨(0, 0), List.mem_cons_self, rfl⟩
  · have hother : ∀ q ∈ [(1, 0)], ¬ twice.Names q "name" := by
      simp only [List.forall_mem_singleton]
      decide
    exact (hlast "name" (.int 7)).2
      ⟨[(0, 0), (1, 1)], (2, 1), [(1, 0)], rfl, ⟨rfl, _, rfl, rfl⟩, hother⟩
  · refine (hfails _ hflaw).2 [{ tags := #[0, 0, 1, 1, 2, 1, 1, 0] }]
      { tags := #[2, 1, 5, 9, 3, 3] } [] (.inl rfl) rfl ?_ nofun rfl
    intro g hg
    obtain rfl := List.mem_singleton.1 hg
    refine ⟨⟨none, .raw [], m⟩, ?_⟩
    rw [feature]
    simp only [hm]
    rfl

end LayerMessage

end TileScope
