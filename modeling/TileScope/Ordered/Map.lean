/-!
# Maps in key order

A finite map kept as the list of its entries, keys strictly ascending. The list is determined
by the map, so two maps with the same entries are equal, and every listing of a map comes out in
key order without sorting. Text keys ascend by code point, which is also the order of their UTF-8
bytes.

| operation | what it does to look-up |
| --- | --- |
| `insert k v` | `get? k` becomes `v`, every other key is untouched (`get?_insert`) |
| `ofList` | the last entry of a key wins |
| `mapEntries f` | `f` of what was under the key, if it gives something (`get?_mapEntries`) |

A look-up finds just the entries that are listed (`get?_eq_some_iff`).
-/

namespace TileScope

/-- Strictly ascending keys. -/
def Ascending {κ : Type} {α : Type} [Ord κ] (entries : List (κ × α)) : Prop :=
  entries.Pairwise fun a b => compare a.1 b.1 = .lt

/-- A finite map, listed by strictly ascending key. -/
structure OrderedMap (κ : Type) (α : Type) [Ord κ] where
  entries : List (κ × α)
  ascending : Ascending entries

/-- A smaller key is another one. -/
theorem ne_of_compare_lt {κ : Type} [Ord κ] [Std.LawfulEqOrd κ] {a b : κ}
    (h : compare a b = .lt) : a ≠ b := by
  rintro rfl
  have hself : compare a a = .eq := Std.ReflCmp.compare_self
  rw [hself] at h
  cases h

namespace OrderedMap

variable {κ α β : Type} [Ord κ]

/-- Maps with the same entries are the same. -/
@[ext] theorem ext {a b : OrderedMap κ α} (h : a.entries = b.entries) : a = b := by
  cases a; cases b; cases h; rfl

instance [DecidableEq κ] [DecidableEq α] : DecidableEq (OrderedMap κ α) := fun a b =>
  if h : a.entries = b.entries then isTrue (ext h) else isFalse fun e => h (e ▸ rfl)

instance [Repr κ] [Repr α] : Repr (OrderedMap κ α) := ⟨fun m => reprPrec m.entries⟩

/-- The map without entries. -/
def empty : OrderedMap κ α := ⟨[], .nil⟩

instance : Inhabited (OrderedMap κ α) := ⟨empty⟩

/-- Puts `(k, v)` at its place in an ascending list, in the place of an entry with the same key. -/
def place (k : κ) (v : α) : List (κ × α) → List (κ × α)
  | [] => [(k, v)]
  | e :: rest =>
    match compare k e.1 with
    | .lt => (k, v) :: e :: rest
    | .eq => (k, v) :: rest
    | .gt => e :: place k v rest

/-- The value under `k` in a list of entries, the first one if there are several. -/
def lookup (k : κ) : List (κ × α) → Option α
  | [] => none
  | e :: rest => if compare k e.1 = .eq then some e.2 else lookup k rest

/-- Placing an entry brings in no other one. -/
theorem mem_place {k : κ} {v : α} {l : List (κ × α)} {e : κ × α} (h : e ∈ place k v l) :
    e = (k, v) ∨ e ∈ l := by
  induction l with
  | nil => simpa [place] using h
  | cons d rest ih =>
    rw [place] at h
    split at h
    · simpa using h
    · rcases List.mem_cons.1 h with h | h
      · exact .inl h
      · exact .inr (List.mem_cons_of_mem _ h)
    · rcases List.mem_cons.1 h with h | h
      · exact .inr (h ▸ List.mem_cons_self)
      · exact (ih h).imp_right (List.mem_cons_of_mem _)

/-- Placing an entry keeps the keys ascending. -/
theorem ascending_place [Std.TransOrd κ] [Std.LawfulEqOrd κ] (k : κ) (v : α) {l : List (κ × α)}
    (h : Ascending l) : Ascending (place k v l) := by
  induction l with
  | nil => exact List.pairwise_singleton _ _
  | cons d rest ih =>
    obtain ⟨hd, hrest⟩ := List.pairwise_cons.1 h
    rw [place]
    split
    · next hlt =>
      refine List.pairwise_cons.2 ⟨fun e he => ?_, h⟩
      rcases List.mem_cons.1 he with rfl | he
      · exact hlt
      · exact Std.TransCmp.lt_trans hlt (hd e he)
    · next heq =>
      have hkd : k = d.1 := Std.LawfulEqCmp.eq_of_compare heq
      exact List.pairwise_cons.2 ⟨fun e he => hkd ▸ hd e he, hrest⟩
    · next hgt =>
      refine List.pairwise_cons.2 ⟨fun e he => ?_, ih hrest⟩
      rcases mem_place he with rfl | he
      · exact Std.OrientedCmp.lt_of_gt hgt
      · exact hd e he

/-- After an entry is placed its key has the new value, and the others have theirs. -/
theorem lookup_place [Std.TransOrd κ] [Std.LawfulEqOrd κ] [DecidableEq κ] (k j : κ) (v : α)
    (l : List (κ × α)) : lookup j (place k v l) = if j = k then some v else lookup j l := by
  have self : ∀ i : κ, compare i i = .eq := fun i => Std.ReflCmp.compare_self
  have eq_iff : ∀ a b : κ, compare a b = .eq ↔ a = b := fun a b =>
    ⟨Std.LawfulEqCmp.eq_of_compare, fun h => h ▸ self a⟩
  induction l with
  | nil => by_cases h : j = k <;> simp [place, lookup, eq_iff, h]
  | cons d rest ih =>
    rw [place]
    split
    · by_cases h : j = k <;> simp [lookup, eq_iff, h]
    · next heq =>
      have hkd : k = d.1 := (eq_iff _ _).1 heq
      by_cases h : j = k
      · simp [lookup, h]
      · have : j ≠ d.1 := hkd ▸ h
        simp [lookup, eq_iff, h, this]
    · next hgt =>
      have hkd : k ≠ d.1 := fun h => by simp [h] at hgt
      by_cases hj : j = d.1
      · have : j ≠ k := fun h => hkd (h.symm.trans hj)
        simp [lookup, hj, Ne.symm hkd]
      · simp [lookup, eq_iff, hj, ih]

/-- Sets the value under `k`. -/
def insert [Std.TransOrd κ] [Std.LawfulEqOrd κ] (m : OrderedMap κ α) (k : κ) (v : α) :
    OrderedMap κ α :=
  ⟨place k v m.entries, ascending_place k v m.ascending⟩

/-- The value under `k`. -/
def get? (m : OrderedMap κ α) (k : κ) : Option α := lookup k m.entries

/-- Whether `k` has a value. -/
def contains (m : OrderedMap κ α) (k : κ) : Bool := (m.get? k).isSome

/-- The map that a list of entries builds up; of two entries with one key the later one wins. -/
def ofList [Std.TransOrd κ] [Std.LawfulEqOrd κ] (l : List (κ × α)) : OrderedMap κ α :=
  l.foldl (fun m e => m.insert e.1 e.2) empty

/-- The keys, ascending. -/
def keys (m : OrderedMap κ α) : List κ := m.entries.map (·.1)

/-- The values, by ascending key. -/
def values (m : OrderedMap κ α) : List α := m.entries.map (·.2)

/-- The number of keys. -/
def size (m : OrderedMap κ α) : Nat := m.entries.length

/-- Whether there are no entries. -/
def isEmpty (m : OrderedMap κ α) : Bool := m.entries.isEmpty

/-- The empty map has no values. -/
@[simp] theorem get?_empty (k : κ) : (empty : OrderedMap κ α).get? k = none := rfl

/-- After an insertion the key has the new value, and the others have theirs. -/
theorem get?_insert [Std.TransOrd κ] [Std.LawfulEqOrd κ] [DecidableEq κ] (m : OrderedMap κ α)
    (k j : κ) (v : α) : (m.insert k v).get? j = if j = k then some v else m.get? j :=
  lookup_place k j v m.entries

/-- Changing or dropping values keeps the keys ascending. -/
theorem ascending_filterMap (f : κ → α → Option β) {l : List (κ × α)} (h : Ascending l) :
    Ascending (l.filterMap fun e => (f e.1 e.2).map fun v => (e.1, v)) := by
  refine List.Pairwise.filterMap _ (fun a b hab c hc d hd => ?_) h
  obtain ⟨_, _, rfl⟩ := Option.map_eq_some_iff.1 hc
  obtain ⟨_, _, rfl⟩ := Option.map_eq_some_iff.1 hd
  exact hab

/-- Applies `f` under each key and drops the keys where it gives nothing. -/
def mapEntries (f : κ → α → Option β) (m : OrderedMap κ α) : OrderedMap κ β :=
  ⟨m.entries.filterMap fun e => (f e.1 e.2).map fun v => (e.1, v),
    ascending_filterMap f m.ascending⟩

section Entries

variable [Std.LawfulEqOrd κ] {k : κ} {v : α}

/-- What is looked up is an entry. -/
theorem mem_of_lookup {l : List (κ × α)} (h : lookup k l = some v) : (k, v) ∈ l := by
  induction l with
  | nil => cases h
  | cons e l ih =>
    rw [lookup] at h
    split at h
    · next hk =>
      obtain rfl : k = e.1 := Std.LawfulEqCmp.eq_of_compare hk
      obtain rfl : e.2 = v := Option.some.inj h
      exact List.mem_cons_self
    · exact List.mem_cons_of_mem _ (ih h)

/-- In an ascending list every entry is what its key looks up. -/
theorem lookup_of_mem {l : List (κ × α)} (hl : Ascending l) (h : (k, v) ∈ l) :
    lookup k l = some v := by
  induction l with
  | nil => cases h
  | cons e l ih =>
    obtain ⟨he, hl⟩ := List.pairwise_cons.1 hl
    rw [lookup]
    rcases List.mem_cons.1 h with rfl | h
    · rw [if_pos Std.ReflCmp.compare_self]
    · have hne : e.1 ≠ k := ne_of_compare_lt (he _ h)
      rw [if_neg fun heq => hne (Std.LawfulEqCmp.eq_of_compare heq).symm, ih hl h]

/-- The values by key are the entries. -/
theorem get?_eq_some_iff {m : OrderedMap κ α} : m.get? k = some v ↔ (k, v) ∈ m.entries :=
  ⟨mem_of_lookup, lookup_of_mem m.ascending⟩

/-- A changed map has at each key the changed value. -/
theorem get?_mapEntries (f : κ → α → Option β) (m : OrderedMap κ α) :
    (m.mapEntries f).get? k = (m.get? k).bind (f k) := by
  ext v
  rw [get?_eq_some_iff]
  simp only [mapEntries, List.mem_filterMap, Option.bind_eq_some_iff, Option.map_eq_some_iff,
    Prod.mk.injEq, get?_eq_some_iff]
  constructor
  · rintro ⟨⟨k', a⟩, ha, w, hw, rfl, rfl⟩
    exact ⟨a, ha, hw⟩
  · rintro ⟨a, ha, hv⟩
    exact ⟨(k, a), ha, v, hv, rfl, rfl⟩

end Entries

end OrderedMap

end TileScope
