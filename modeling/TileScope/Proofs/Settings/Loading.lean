import TileScope.Proofs.InOrder
import TileScope.Proofs.Text.Blank
import TileScope.Settings.Load

/-!
# What is loaded

The settings of a document, each by the value that is given for it (`Loads`). A value that is given
is not blank and has no blanks at its ends (`trim_of_given`).
-/

namespace TileScope.Settings

variable {home name key value : String} {d : Ini.Document} {s : Settings}

/-- A value is given if it is there and is not blank, and it is given trimmed. -/
theorem given?_eq_some_iff : given? d name key = some value ↔
    value ≠ "" ∧ ∃ raw, d.value? name key = some raw ∧ Text.trim raw = value := by
  rw [given?, Option.filter_eq_some_iff, Option.map_eq_some_iff, Bool.not_eq_true',
    String.isEmpty_eq_false_iff, and_comm]

/-- A value that is given is neither empty nor with blanks at its ends. -/
theorem trim_of_given (h : given? d name key = some value) :
    value ≠ "" ∧ Text.trim value = value := by
  obtain ⟨hne, raw, -, rfl⟩ := given?_eq_some_iff.1 h
  exact ⟨hne, Text.trim_trim raw⟩

/-- A setting that any value is valid for is read as it is given. -/
theorem read_ok {α : Type} (f : String → α) :
    read d name key (fun v => .ok (f v)) = .ok ((given? d name key).map f) := by
  rw [read]
  cases given? d name key <;> rfl

/-- What is not given is not checked. -/
theorem read_of_none {α : Type} {rule : String → Except ValueRule α}
    (h : given? d name key = none) : read d name key rule = .ok none := by
  rw [read, h]

/-- What is given is read by its rule, and refused with its name and the value. -/
theorem read_of_some {α : Type} {rule : String → Except ValueRule α}
    (h : given? d name key = some value) :
    read d name key rule = ((rule value).map some).mapError (.invalid name key value) := by
  rw [read, h]

/-- What is read is what the rule makes of the value that is given. -/
theorem read_eq_ok_iff {α : Type} {rule : String → Except ValueRule α} {o : Option α} :
    read d name key rule = .ok o ↔ given? d name key = none ∧ o = none ∨
      ∃ value a, given? d name key = some value ∧ rule value = .ok a ∧ o = some a := by
  cases h : given? d name key with
  | none => simp [read_of_none h, eq_comm]
  | some value =>
    rw [read_of_some h]
    cases hrule : rule value <;> simp [hrule, Except.map, Except.mapError, eq_comm]

/-- The settings are those of the document. -/
structure Loads (home : String) (d : Ini.Document) (s : Settings) : Prop where
  archive : read d "archive" "path" (fun v => .ok (Path.expandHome home v)) = .ok s.archive
  service : read d "http" "base_url" address? = .ok s.service
  timeout : ∃ t, read d "http" "timeout" timeLimit? = .ok t ∧ s.timeout = t.getD 30
  layer : read d "search" "layer" .ok = .ok s.layer
  neighbors : ∃ n, read d "search" "neighbors" switch? = .ok n ∧ s.neighbors = n.getD false
  logFile : read d "logging" "file" (fun v => .ok (Path.expandHome home v)) = .ok s.logFile

/-- Settings are loaded from a document if each value is by its rule. -/
theorem ofDocument_eq_ok_iff : ofDocument home d = .ok s ↔ Loads home d s := by
  simp only [ofDocument, bind_eq_ok_iff]
  constructor
  · rintro ⟨archive, harchive, service, hservice, timeout, htimeout, layer, hlayer, neighbors,
      hneighbors, logFile, hlogFile, h⟩
    obtain rfl := Except.ok.inj h
    exact ⟨harchive, hservice, ⟨timeout, htimeout, rfl⟩, hlayer, ⟨neighbors, hneighbors, rfl⟩,
      hlogFile⟩
  · rintro ⟨harchive, hservice, ⟨timeout, htimeout, ht⟩, hlayer, ⟨neighbors, hneighbors, hn⟩,
      hlogFile⟩
    refine ⟨_, harchive, _, hservice, _, htimeout, _, hlayer, _, hneighbors, _, hlogFile, ?_⟩
    rw [← ht, ← hn]
    rfl

end TileScope.Settings
