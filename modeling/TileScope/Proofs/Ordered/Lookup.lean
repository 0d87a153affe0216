import Mathlib
import TileScope.Ordered.Set

/-!
# Maps and sets by what is in them

A map is determined by its look-ups (`OrderedMap.ext_get?`) and a set by its members
(`OrderedSet.ext_mem`), so two ways to build one are compared by what they hold and not by the
order of the steps.

| operation | what it does to look-up |
| --- | --- |
| `mapTo f` | `f` of every member (`OrderedSet.get?_mapTo`) |
| `union` | the second map's value, else the first one's (`get?_union`) |
| `ofList` | every entry, if no key comes with two values (`get?_ofList`) |
-/

namespace TileScope

/-- Lists that ascend and have the same members are the same list. -/
theorem eq_of_pairwise_of_mem_iff {γ : Type} {r : γ → γ → Prop} (hasymm : ∀ a b, r a b → ¬ r b a)
    {l l' : List γ} (hl : l.Pairwise r) (hl' : l'.Pairwise r) (h : ∀ a, a ∈ l ↔ a ∈ l') :
    l = l' := by
  have hnodup : ∀ {l : List γ}, l.Pairwise r → l.Nodup := fun hl => hl.imp fun hab => by
    rintro rfl
    exact hasymm _ _ hab hab
  have hperm : l.Perm l' := (List.perm_ext_iff_of_nodup (hnodup hl) (hnodup hl')).2 h
  exact hperm.eq_of_pairwise (fun a b _ _ hab hba => absurd hba (hasymm a b hab)) hl hl'

/-- The members of a list, numbered, are in the order of their numbers. -/
theorem pairwise_zipIdx {α : Type} (l : List α) : l.zipIdx.Pairwise fun a b => a.2 < b.2 := by
  refine List.pairwise_map.1 ?_
  rw [List.zipIdx_map_snd]
  exact List.pairwise_lt_range'

/-- Of two keys not each is below the other. -/
theorem not_compare_lt {κ : Type} [Ord κ] [Std.TransOrd κ] {a b : κ} (h : compare a b = .lt) :
    ¬compare b a = .lt := by
  rw [Std.OrientedCmp.gt_of_lt h]
  exact nofun

namespace OrderedMap

variable {κ α β : Type} [Ord κ]

/-- The entries of two maps; of a key in both the second map's value stays. -/
def union [Std.TransOrd κ] [Std.LawfulEqOrd κ] (a b : OrderedMap κ α) : OrderedMap κ α :=
  b.entries.foldl (fun m e => m.insert e.1 e.2) a

/-- No key has a value in both maps. -/
def Apart (a b : OrderedMap κ α) : Prop := ∀ k, a.get? k = none ∨ b.get? k = none

/-- That two maps share no key goes both ways. -/
theorem Apart.symm {a b : OrderedMap κ α} (h : a.Apart b) : b.Apart a := fun k => (h k).symm

/-! ## Entries -/

section Entries

/-- If no value is dropped, the entries keep their keys and their order. -/
theorem entries_mapEntries_some (f : κ → α → β) (m : OrderedMap κ α) :
    (m.mapEntries fun k v => some (f k v)).entries = m.entries.map fun e => (e.1, f e.1 e.2) := by
  rw [mapEntries]
  exact congrFun List.filterMap_eq_map _

/-- If no value is dropped, the keys stay. -/
theorem keys_mapEntries_some (f : κ → α → β) (m : OrderedMap κ α) :
    (m.mapEntries fun k v => some (f k v)).keys = m.keys := by
  rw [keys, entries_mapEntries_some, List.map_map]
  rfl

/-- If no value is dropped, the values are changed one by one. -/
theorem values_mapEntries_some (f : α → β) (m : OrderedMap κ α) :
    (m.mapEntries fun _ v => some (f v)).values = m.values.map f := by
  rw [values, values, entries_mapEntries_some, List.map_map, List.map_map]
  rfl

/-- A changed map has as many keys as values were kept. -/
theorem size_mapEntries (f : κ → α → Option β) (m : OrderedMap κ α) :
    (m.mapEntries f).size = m.entries.countP fun e => (f e.1 e.2).isSome := by
  rw [size, mapEntries, List.length_filterMap_eq_countP]
  exact List.countP_congr fun e _ => by rw [Option.isSome_map]

/-- A sum over the entries that are left is one over all entries, those dropped counting nothing. -/
theorem sum_values_mapEntries (f : κ → α → Option β) (g : β → Nat) (m : OrderedMap κ α) :
    ((m.mapEntries f).values.map g).sum
      = (m.entries.map fun e => ((f e.1 e.2).map g).getD 0).sum := by
  dsimp only [values, mapEntries]
  induction m.entries with
  | nil => rfl
  | cons e rest ih =>
    rw [List.filterMap_cons, List.map_cons, List.sum_cons, ← ih]
    cases f e.1 e.2 with
    | none => exact (Nat.zero_add _).symm
    | some v => rfl

variable [Std.LawfulEqOrd κ] {k : κ} {v : α}

/-- A key below all keys of a list is not found in it. -/
theorem lookup_of_below {l : List (κ × α)} (h : ∀ e ∈ l, compare k e.1 = .lt) :
    lookup k l = none := by
  cases hk : lookup k l with
  | none => rfl
  | some v => exact absurd rfl (ne_of_compare_lt (h _ (mem_of_lookup hk)))

/-- The keys are those with a value. -/
theorem mem_keys_iff {m : OrderedMap κ α} : k ∈ m.keys ↔ ∃ v, m.get? k = some v := by
  simp only [keys, List.mem_map, get?_eq_some_iff]
  constructor
  · rintro ⟨e, he, rfl⟩
    exact ⟨e.2, he⟩
  · rintro ⟨v, h⟩
    exact ⟨(k, v), h, rfl⟩

/-- A map is empty if no key has a value. -/
theorem isEmpty_iff {m : OrderedMap κ α} : m.isEmpty = true ↔ ∀ k, m.get? k = none := by
  rw [isEmpty, List.isEmpty_iff]
  constructor
  · intro h k
    rw [get?, h]
    rfl
  · intro h
    refine List.eq_nil_iff_forall_not_mem.2 fun e he => ?_
    cases (h e.1).symm.trans (get?_eq_some_iff.2 he)

/-- No key is there twice. -/
theorem nodup_keys (m : OrderedMap κ α) : m.keys.Nodup :=
  List.Pairwise.map _ (fun _ _ => ne_of_compare_lt) m.ascending

/-- Lists under different keys have nothing in common if their members tell the key. -/
theorem nodup_flatMap {γ : Type} {m : OrderedMap κ α} (f : κ → α → List γ) (key : γ → κ)
    (hkey : ∀ e ∈ m.entries, ∀ c ∈ f e.1 e.2, key c = e.1)
    (h : ∀ e ∈ m.entries, (f e.1 e.2).Nodup) :
    (m.entries.flatMap fun e => f e.1 e.2).Nodup := by
  refine List.nodup_flatMap.2 ⟨h, List.Pairwise.imp_of_mem (fun ha hb hlt => ?_) m.ascending⟩
  intro c hca hcb
  exact ne_of_compare_lt hlt ((hkey _ ha c hca).symm.trans (hkey _ hb c hcb))

/-- Two maps with the same look-ups are the same map. -/
theorem ext_get? [Std.TransOrd κ] {a b : OrderedMap κ α} (h : ∀ k, a.get? k = b.get? k) :
    a = b :=
  ext <| eq_of_pairwise_of_mem_iff (fun _ _ => not_compare_lt) a.ascending b.ascending fun e => by
    rw [← get?_eq_some_iff, ← get?_eq_some_iff, h]

end Entries

/-! ## Building maps -/

section Building

variable [Std.TransOrd κ] [Std.LawfulEqOrd κ] [DecidableEq κ] {a b c : OrderedMap κ α}

/-- After insertions the inserted values come before those that were there. -/
theorem get?_foldl_insert {l : List (κ × α)} (hl : Ascending l) (m : OrderedMap κ α) (k : κ) :
    (l.foldl (fun m e => m.insert e.1 e.2) m).get? k = (lookup k l).or (m.get? k) := by
  induction l generalizing m with
  | nil => rfl
  | cons e l ih =>
    obtain ⟨he, hl⟩ := List.pairwise_cons.1 hl
    rw [List.foldl_cons, ih hl, get?_insert, lookup]
    by_cases hk : k = e.1
    · subst hk
      rw [lookup_of_below he, if_pos rfl, if_pos Std.ReflCmp.compare_self, Option.none_or,
        Option.some_or]
    · rw [if_neg hk, if_neg fun heq => hk (Std.LawfulEqCmp.eq_of_compare heq)]

/-- A key has no value after insertions if it had none and none was inserted. -/
theorem get?_foldl_insert_eq_none_iff {l : List (κ × α)} {m : OrderedMap κ α} {k : κ} :
    (l.foldl (fun m e => m.insert e.1 e.2) m).get? k = none ↔
      m.get? k = none ∧ ∀ e ∈ l, e.1 ≠ k := by
  induction l generalizing m with
  | nil => simp
  | cons e l ih =>
    rw [List.foldl_cons, ih, get?_insert, List.forall_mem_cons]
    by_cases hk : k = e.1
    · simp [hk]
    · simp [hk, Ne.symm hk]

/-- Of the entries put onto a map, the last one with a key is found under it. -/
theorem get?_foldl_insert_eq_some_iff {l : List (κ × α)} {m : OrderedMap κ α} {k : κ} {v : α} :
    (l.foldl (fun m e => m.insert e.1 e.2) m).get? k = some v ↔
      (∃ before after, l = before ++ (k, v) :: after ∧ ∀ e ∈ after, e.1 ≠ k) ∨
        m.get? k = some v ∧ ∀ e ∈ l, e.1 ≠ k := by
  induction l generalizing m with
  | nil => simp
  | cons e l ih =>
    -- The last entry with the key is among the rest, or the first one is the only one with it.
    have hsplit : (∃ before after, e :: l = before ++ (k, v) :: after ∧ ∀ e ∈ after, e.1 ≠ k) ↔
        (∃ before after, l = before ++ (k, v) :: after ∧ ∀ e ∈ after, e.1 ≠ k) ∨
          e = (k, v) ∧ ∀ e ∈ l, e.1 ≠ k := by
      constructor
      · rintro ⟨before, after, h, hafter⟩
        rcases List.cons_eq_append_iff.1 h with ⟨-, hl⟩ | ⟨before, -, hl⟩
        · obtain ⟨rfl, rfl⟩ := List.cons.inj hl
          exact .inr ⟨rfl, hafter⟩
        · exact .inl ⟨before, after, hl, hafter⟩
      · rintro (⟨before, after, rfl, hafter⟩ | ⟨rfl, hafter⟩)
        · exact ⟨e :: before, after, rfl, hafter⟩
        · exact ⟨[], l, rfl, hafter⟩
    rw [List.foldl_cons, ih, hsplit, get?_insert, List.forall_mem_cons, or_assoc]
    refine or_congr_right ?_
    by_cases hk : k = e.1
    · subst hk
      simp [Prod.ext_iff]
    · have hne : e ≠ (k, v) := fun h => hk (congrArg Prod.fst h).symm
      simp [hk, Ne.symm hk, hne]

/-- In a union the second map comes before the first. -/
theorem get?_union (a b : OrderedMap κ α) (k : κ) :
    (a.union b).get? k = (b.get? k).or (a.get? k) := get?_foldl_insert b.ascending a k

/-- Entries that give each key one value are all found again, in whatever order they come. -/
theorem get?_ofList {l : List (κ × α)} {f : κ → α} (hl : ∀ e ∈ l, e.2 = f e.1) (k : κ) :
    (ofList l).get? k = if k ∈ l.map (·.1) then some (f k) else none := by
  -- Over all maps to start from, since an entry is put onto those in front of it.
  have step : ∀ m : OrderedMap κ α, (l.foldl (fun m e => m.insert e.1 e.2) m).get? k
      = if k ∈ l.map (·.1) then some (f k) else m.get? k := by
    induction l with
    | nil => intro m; rfl
    | cons e l ih =>
      obtain ⟨he, hl⟩ := List.forall_mem_cons.1 hl
      intro m
      rw [List.foldl_cons, ih hl, get?_insert, List.map_cons]
      by_cases hk : k = e.1
      · subst hk
        simp [he]
      · simp only [List.mem_cons, hk, false_or, if_false]
  exact step empty

/-- A map shares no key with a union if it shares none with either. -/
theorem apart_union_iff : a.Apart (b.union c) ↔ a.Apart b ∧ a.Apart c := by
  simp only [Apart, get?_union, Option.or_eq_none_iff]
  grind

/-- Maps without a common key can be put together in either order. -/
theorem Apart.union_comm (h : a.Apart b) : a.union b = b.union a := ext_get? fun k => by
  rw [get?_union, get?_union]
  rcases h k with hk | hk <;> rw [hk, Option.none_or, Option.or_none]

/-- Unions may be taken in any grouping. -/
theorem union_assoc (a b c : OrderedMap κ α) : (a.union b).union c = a.union (b.union c) :=
  ext_get? fun k => by simp only [get?_union, Option.or_assoc]

end Building

end OrderedMap

namespace OrderedSet

variable {κ α : Type} [Ord κ]

/-- Two sets with the same members are the same set. -/
theorem ext_mem [Std.TransOrd κ] [Std.LawfulEqOrd κ] {s t : OrderedSet κ}
    (h : ∀ k, k ∈ s ↔ k ∈ t) : s = t :=
  ext (eq_of_pairwise_of_mem_iff (fun _ _ => not_compare_lt) s.ascending t.ascending h)

/-- A list that ascends is the listing of its set. -/
theorem toList_ofList [Std.TransOrd κ] [Std.LawfulEqOrd κ] {l : List κ}
    (h : l.Pairwise fun a b => compare a b = .lt) : (ofList l).toList = l :=
  congrArg toList (ext_mem (t := ⟨l, h⟩) fun _ => mem_ofList)

/-- The set of a list is empty if the list is. -/
theorem isEmpty_ofList_iff [Std.TransOrd κ] [Std.LawfulEqOrd κ] {l : List κ} :
    (ofList l).isEmpty = true ↔ l = [] := by
  rw [isEmpty, List.isEmpty_iff, List.eq_nil_iff_forall_not_mem, List.eq_nil_iff_forall_not_mem]
  exact forall_congr' fun _ => not_congr mem_ofList

/-- The keys of a map made on a set are its elements. -/
theorem keys_mapTo (s : OrderedSet κ) (f : κ → α) : (s.mapTo f).keys = s.toList := by
  simp [mapTo, OrderedMap.keys, List.map_map, Function.comp_def]

/-- A map made on a set has the made value at each of its elements. -/
theorem get?_mapTo [Std.LawfulEqOrd κ] {s : OrderedSet κ} (f : κ → α) {k : κ} {v : α} :
    (s.mapTo f).get? k = some v ↔ k ∈ s ∧ f k = v := by
  rw [OrderedMap.get?_eq_some_iff, mem_def]
  simp [mapTo]

end OrderedSet

end TileScope
