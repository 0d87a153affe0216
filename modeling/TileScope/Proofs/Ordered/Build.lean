import Mathlib
import TileScope.Ordered.Map

/-!
# Building maps in order

Entries that come in ascending order are put at the end, so inserting the entries of a map one
after the other builds the map again (`foldl_insert_entries`).
-/

namespace TileScope.OrderedMap

variable {κ α : Type} [Ord κ]

/-- The entries in front of a key are below it. -/
theorem lt_of_ascending_append {l rest : List (κ × α)} {e : κ × α}
    (h : Ascending (l ++ e :: rest)) : ∀ d ∈ l, compare d.1 e.1 = .lt := fun d hd =>
  (List.pairwise_append.1 h).2.2 d hd e List.mem_cons_self

/-- A key without a value adds an entry. -/
theorem length_place {k : κ} {v : α} {l : List (κ × α)} (h : lookup k l = none) :
    (place k v l).length = l.length + 1 := by
  induction l with
  | nil => rfl
  | cons e l ih =>
    rw [lookup] at h
    rw [place]
    cases hcompare : compare k e.1 with
    | lt => rfl
    | eq =>
      rw [if_pos hcompare] at h
      cases h
    | gt =>
      rw [hcompare, if_neg (by decide)] at h
      exact congrArg (· + 1) (ih h)

variable [Std.TransOrd κ]

/-- The largest key is placed at the end. -/
theorem place_of_ascending {k : κ} {v : α} {l : List (κ × α)}
    (h : ∀ e ∈ l, compare e.1 k = .lt) : place k v l = l ++ [(k, v)] := by
  induction l with
  | nil => rfl
  | cons e l ih =>
    obtain ⟨he, h⟩ := List.forall_mem_cons.1 h
    have hgt : compare k e.1 = .gt := Std.OrientedCmp.gt_of_lt he
    rw [place, hgt, ih h, List.cons_append]

/-- A key above all others has no value. -/
theorem lookup_of_ascending {k : κ} {l : List (κ × α)} (h : ∀ e ∈ l, compare e.1 k = .lt) :
    lookup k l = none := by
  induction l with
  | nil => rfl
  | cons e l ih =>
    obtain ⟨he, h⟩ := List.forall_mem_cons.1 h
    have hgt : compare k e.1 = .gt := Std.OrientedCmp.gt_of_lt he
    rw [lookup, hgt, if_neg (by decide), ih h]

variable [Std.LawfulEqOrd κ]

/-- A key above all keys of a map is new, and goes to the end. -/
theorem insert_of_ascending {m : OrderedMap κ α} {e : κ × α} {rest : List (κ × α)}
    (h : Ascending (m.entries ++ e :: rest)) :
    m.contains e.1 = false ∧ (m.insert e.1 e.2).entries = m.entries ++ [e] := by
  have hlt := lt_of_ascending_append h
  refine ⟨?_, place_of_ascending hlt⟩
  rw [contains, get?, lookup_of_ascending hlt, Option.isSome_none]

/-- Entries that ascend behind those of a map are added at its end. -/
theorem entries_foldl_insert {m : OrderedMap κ α} {rest : List (κ × α)}
    (h : Ascending (m.entries ++ rest)) :
    (rest.foldl (fun m e => m.insert e.1 e.2) m).entries = m.entries ++ rest := by
  induction rest generalizing m with
  | nil => rw [List.foldl_nil, List.append_nil]
  | cons e rest ih =>
    have hinsert := (insert_of_ascending h).2
    have happend : m.entries ++ [e] ++ rest = m.entries ++ e :: rest := by
      rw [List.append_assoc, List.singleton_append]
    rw [List.foldl_cons, ih (by rwa [hinsert, happend]), hinsert, happend]

/-- The entries of a map, inserted one after the other, build the map. -/
theorem foldl_insert_entries (m : OrderedMap κ α) :
    m.entries.foldl (fun m e => m.insert e.1 e.2) empty = m :=
  ext (entries_foldl_insert (m := empty) m.ascending)

end TileScope.OrderedMap
