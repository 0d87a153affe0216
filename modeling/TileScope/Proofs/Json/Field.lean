import Mathlib
import TileScope.Json.Value

/-!
# Reading JSON values

What a reader of a machine-readable report gets out of it: the fields of objects by name, the items
of arrays, texts. A record puts its fields in the order of their names, which does not show to such
a reader as long as no name comes twice (`Json.field?_record`).
-/

namespace TileScope.Json

/-- The fields of an object, in order. -/
def fields : Json → List (String × Json)
  | .object fields => fields
  | _ => []

/-- The items of an array, in order. -/
def items : Json → List Json
  | .array items => items
  | _ => []

/-- The text that a value is. -/
def text? : Json → Option String
  | .text s => some s
  | _ => none

/-- The value of a field of an object, the first one if there are several. -/
def field? (name : String) (value : Json) : Option Json :=
  (value.fields.find? (·.1 = name)).map (·.2)

variable {fields : List (String × Json)} {name : String} {value : Json}

/-- A field that comes once is found, wherever it stands. -/
theorem field?_object_eq_some_iff (h : (fields.map (·.1)).Nodup) :
    (object fields).field? name = some value ↔ (name, value) ∈ fields := by
  rw [field?, Json.fields, Option.map_eq_some_iff]
  constructor
  · rintro ⟨e, hfind, rfl⟩
    obtain rfl : e.1 = name := by simpa using List.find?_some hfind
    exact List.mem_of_find?_eq_some hfind
  · intro hmem
    cases hfind : fields.find? (·.1 = name) with
    | none => exact absurd (decide_eq_true rfl) (List.find?_eq_none.1 hfind _ hmem)
    | some e =>
      have hname : e.1 = name := by simpa using List.find?_some hfind
      have hsame := List.inj_on_of_nodup_map h (List.mem_of_find?_eq_some hfind) hmem hname
      exact ⟨e, rfl, congrArg Prod.snd hsame⟩

/-- The order of the fields of a record does not show. -/
theorem field?_record (h : (fields.map (·.1)).Nodup) (name : String) :
    (record fields).field? name = (object fields).field? name := by
  have hperm := List.mergeSort_perm fields fun a b => decide (a.1 ≤ b.1)
  ext value
  rw [record, field?_object_eq_some_iff ((hperm.map _).nodup_iff.2 h),
    field?_object_eq_some_iff h, hperm.mem_iff]

/-- A record has its fields. -/
theorem field?_record_of_mem (h : (fields.map (·.1)).Nodup) (hmem : (name, value) ∈ fields) :
    (record fields).field? name = some value := by
  rw [field?_record h, field?_object_eq_some_iff h]
  exact hmem

/-- The names of the fields of a record are in order. -/
theorem names_record {names : List String} (hperm : (fields.map (·.1)).Perm names)
    (hordered : names.Pairwise (· ≤ ·)) : (record fields).fields.map (·.1) = names := by
  have hsorted : ((fields.mergeSort fun a b => decide (a.1 ≤ b.1)).map (·.1)).Pairwise (· ≤ ·) := by
    rw [List.pairwise_map]
    refine (List.pairwise_mergeSort (fun a b c hab hbc => ?_) (fun a b => ?_) fields).imp
      of_decide_eq_true
    · exact decide_eq_true ((of_decide_eq_true hab).trans (of_decide_eq_true hbc))
    · simpa using le_total a.1 b.1
  exact (((List.mergeSort_perm fields _).map _).trans hperm).eq_of_pairwise
    (fun _ _ _ _ => le_antisymm) hsorted hordered

end TileScope.Json
