import Mathlib
import TileScope.Ini.Document

/-!
# Writing documents

A value is written under a key of a section, in the place of the one that would be read there
(`Document.value?_set`). A document that is written from values, none of them twice under one key,
has just these values (`Document.value?_ofValues`).
-/

namespace TileScope.Ini

/-- A section with a value for a key, and no other value for it. -/
def Section.set (s : Section) (key value : String) : Section :=
  { s with properties := s.properties.filter (·.1 ≠ key) ++ [(key, value)] }

/-- Sections with a value in the first one of a name, which is added if there is none. -/
def setIn (name key value : String) : List Section → List Section
  | [] => [⟨some name, [(key, value)]⟩]
  | s :: rest =>
    if s.name = some name then s.set key value :: rest else s :: setIn name key value rest

namespace Document

/-- A document with a value for a key of a section. -/
def set (d : Document) (name key value : String) : Document := ⟨setIn name key value d.sections⟩

/-- A fresh document with values, each with its section and key. -/
def ofValues (values : List ((String × String) × String)) : Document :=
  values.foldl (fun d e => d.set e.1.1 e.1.2 e.2) {}

end Document

/-- After a value is set its key has it, and the others have theirs. -/
theorem Section.value?_set (s : Section) (key value key' : String) :
    (s.set key value).value? key' = if key' = key then some value else s.value? key' := by
  have hfilter : (s.properties.filter (·.1 ≠ key)).find? (·.1 = key')
      = if key' = key then none else s.properties.find? (·.1 = key') := by
    rw [List.find?_filter]
    split
    · next heq =>
      subst heq
      exact List.find?_eq_none.2 fun e _ => by simp
    · next hne =>
      congr 1
      funext e
      by_cases he : e.1 = key' <;> simp [he, hne]
  rw [value?, set, List.find?_append, hfilter]
  split
  · next heq => simp [heq]
  · next hne => simp [Ne.symm hne, value?]

section SetIn

variable (name key value : String) (sections : List Section)

/-- The section in which a value is set is found with it. -/
theorem find?_setIn_self : (setIn name key value sections).find? (·.name = some name)
    = some (((sections.find? (·.name = some name)).getD ⟨some name, []⟩).set key value) := by
  induction sections with
  | nil => simp [setIn, Section.set]
  | cons s rest ih =>
    rw [setIn]
    by_cases hs : s.name = some name
    · simp [hs, Section.set]
    · simp [hs, ih]

/-- The other sections are found as they were. -/
theorem find?_setIn_of_ne {name' : String} (h : name' ≠ name) :
    (setIn name key value sections).find? (·.name = some name')
      = sections.find? (·.name = some name') := by
  induction sections with
  | nil => simp [setIn, Ne.symm h]
  | cons s rest ih =>
    rw [setIn]
    by_cases hs : s.name = some name
    · simp [hs, Section.set, Ne.symm h]
    · rw [if_neg hs, List.find?_cons, List.find?_cons, ih]

end SetIn

namespace Document

/-- **What is written is read**, and nothing else changes. -/
theorem value?_set (d : Document) (name key value name' key' : String) :
    (d.set name key value).value? name' key'
      = if name' = name ∧ key' = key then some value else d.value? name' key' := by
  rw [value?, section?, set]
  by_cases hname : name' = name
  · subst hname
    rw [find?_setIn_self, Option.bind_some, Section.value?_set, value?, section?]
    cases d.sections.find? (·.name = some name') <;> simp [Section.value?]
  · rw [find?_setIn_of_ne _ _ _ _ hname, if_neg fun h => hname h.1]
    rfl

/-- **A document has just the values it is written from.** -/
theorem value?_ofValues {values : List ((String × String) × String)}
    (h : (values.map (·.1)).Nodup) {name key value : String} :
    (ofValues values).value? name key = some value ↔ ((name, key), value) ∈ values := by
  induction values using List.reverseRecOn with
  | nil => simp [ofValues, value?, section?]
  | append_singleton values e ih =>
    obtain ⟨⟨name', key'⟩, value'⟩ := e
    rw [List.map_append, List.nodup_append] at h
    obtain ⟨hnodup, -, hdisjoint⟩ := h
    have hfresh : ∀ v, ((name', key'), v) ∉ values := fun v hv =>
      hdisjoint _ (List.mem_map_of_mem hv) _ (List.mem_singleton.2 rfl) rfl
    rw [ofValues, List.foldl_append, List.foldl_cons, List.foldl_nil, value?_set,
      List.mem_append, List.mem_singleton]
    by_cases hkey : name = name' ∧ key = key'
    · obtain ⟨rfl, rfl⟩ := hkey
      rw [if_pos ⟨rfl, rfl⟩]
      simp [hfresh, eq_comm]
    · rw [if_neg hkey]
      refine (ih hnodup).trans ⟨.inl, fun hmem => hmem.resolve_right fun heq => hkey ?_⟩
      cases heq
      exact ⟨rfl, rfl⟩

end Document

end TileScope.Ini
