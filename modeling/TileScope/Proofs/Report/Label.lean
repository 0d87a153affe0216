import TileScope.Proofs.Grid.Notation
import TileScope.Report.Comparison

/-!
# Labels on lines

A comparison tells features apart by their labels, which are texts. The label of a feature with an
id is the digits of the id behind a mark; every other label begins with a quote or a bracket. So
equal labels are about equal ids (`Feature.id_eq_of_label_eq`), whatever the names of features are.

The same mark sets two kinds of lines of a comparison apart from all others, and the words behind
the digits tell these two apart (`Line.Compares.startsWith_iff`, `Line.Compares.text_eq_iff`):

| line | begins with |
| --- | --- |
| heading of a feature with an id | `#`, the id, `seen in` |
| id not found | `#`, the id, `not found` |
| heading of another feature | `"` or `(` |
| source, search | `S` |
| status, summary | a digit |
| placement | a space |
-/

namespace TileScope

/-- How a feature with an id is called. -/
def idLabel (id : UInt64) : String := s!"#{id.toNat}"

/-- How the heading of a group begins whose features have an id. -/
def headingStart (id : UInt64) : String := s!"#{id.toNat} seen in "

/-- How an id is reported that was not found. -/
def missingText (id : UInt64) : String := s!"#{id.toNat} not found in any scanned tile"

/-- A text that says something of an id. -/
def sayOf (id : UInt64) (said : List Char) : List Char :=
  '#' :: (Nat.toDigits 10 id.toNat ++ ' ' :: said)

section Texts

variable {id other : UInt64} {said saidOther : List Char}

/-- A text says one thing of one id. -/
theorem sayOf_inj : sayOf id said = sayOf other saidOther ↔ id = other ∧ said = saidOther := by
  refine ⟨fun h => ?_, fun ⟨hid, hsaid⟩ => hid ▸ hsaid ▸ rfl⟩
  obtain ⟨hid, hsaid⟩ := Text.digits_append_inj (by decide) (List.cons.inj h).2
  exact ⟨UInt64.toNat_inj.1 hid, hsaid⟩

/-- What is said of an id can be gone on with. -/
theorem sayOf_append (rest : List Char) : sayOf id said ++ rest = sayOf id (said ++ rest) := by
  rw [sayOf, sayOf, List.cons_append, List.append_assoc, List.cons_append]

/-- The label of an id is a sign and its digits. -/
theorem toList_idLabel (id : UInt64) : (idLabel id).toList = '#' :: Nat.toDigits 10 id.toNat := by
  have hmark : (toString "#").toList = ['#'] := by decide
  simp [idLabel, String.toList_append, hmark]

/-- The start of a heading is said of its id. -/
theorem toList_headingStart (id : UInt64) :
    (headingStart id).toList = sayOf id "seen in ".toList := by
  have hmark : (toString "#").toList = ['#'] := by decide
  have hwords : (toString " seen in ").toList = ' ' :: "seen in ".toList := by decide
  simp [headingStart, sayOf, String.toList_append, hmark, hwords]

/-- That an id is missing is said of it. -/
theorem toList_missingText (id : UInt64) :
    (missingText id).toList = sayOf id "not found in any scanned tile".toList := by
  have hmark : (toString "#").toList = ['#'] := by decide
  have hwords : (toString " not found in any scanned tile").toList
      = ' ' :: "not found in any scanned tile".toList := by decide
  simp [missingText, sayOf, String.toList_append, hmark, hwords]

/-- A number begins with a digit, so not with a mark. -/
theorem head?_digits_append_ne {mark : Char} (hmark : mark.isDigit = false) (n : Nat)
    (rest : List Char) : (Nat.toDigits 10 n ++ rest).head? ≠ some mark := by
  rw [List.head?_append_of_ne_nil _ Nat.toDigits_ne_nil]
  exact fun h => Text.notMem_digits hmark n (List.mem_of_head? h)

end Texts

namespace Feature

variable {f g : Feature} {id : UInt64}

/-- A feature with an id has its label. -/
theorem label_of_id (h : f.id = some id) : f.label = idLabel id := by
  rw [label, h]
  rfl

/-- Without an id a label begins with a quote or a bracket. -/
theorem head?_label_append_ne (h : f.id = none) (rest : List Char) :
    (f.label.toList ++ rest).head? ≠ some '#' := by
  have hquote : (toString "\"").toList = ['"'] := by decide
  have hnone : "(no id)".toList = '(' :: "no id)".toList := by decide
  rw [label, h]
  cases f.name with
  | none => simp [hnone]
  | some name => simp [String.toList_append, hquote]

/-- The features with the label of an id are those with the id. -/
theorem label_eq_idLabel_iff : f.label = idLabel id ↔ f.id = some id := by
  refine ⟨fun h => ?_, label_of_id⟩
  cases hid : f.id with
  | none =>
    refine absurd ?_ (head?_label_append_ne hid [])
    rw [h, toList_idLabel, List.append_nil, List.head?_cons]
  | some other =>
    have hlists := congrArg String.toList ((label_of_id hid).symm.trans h)
    rw [toList_idLabel, toList_idLabel, List.cons.injEq] at hlists
    exact congrArg some (UInt64.toNat_inj.1 (Text.digits_injective hlists.2))

/-- **Labels tell ids apart**, and features with an id from those without. -/
theorem id_eq_of_label_eq (h : f.label = g.label) : f.id = g.id := by
  cases hid : g.id with
  | some id => exact label_eq_idLabel_iff.1 (h.trans (label_of_id hid))
  | none =>
    by_contra hne
    obtain ⟨id, hsome⟩ := Option.ne_none_iff_exists'.1 hne
    rw [label_of_id hsome] at h
    have hnone := label_eq_idLabel_iff.1 h.symm
    rw [hid] at hnone
    cases hnone

end Feature

namespace Line

/-- The lines that a comparison is made of; a heading has the label of a feature. -/
inductive Compares : Line → Prop
  | source (name : String) (metadata : Metadata) : Compares (.source name metadata)
  | search (query : Query) : Compares (.search query)
  | blank : Compares .blank
  | status (key : TileKey) (outcome : Outcome) : Compares (.status key outcome)
  | heading (f : Feature) (places : Nat) : Compares (.heading f.label places)
  | placement (p : Placement) : Compares (.placement p)
  | missing (id : UInt64) : Compares (.missing id)
  | summary (found scanned absent failed : Nat) : Compares (.summary found scanned absent failed)

variable {line : Line} {id : UInt64}

/-- A heading with the label of an id is said of it. -/
theorem toList_heading (id : UInt64) (n : Nat) : (Line.heading (idLabel id) n).text.toList
    = sayOf id ("seen in ".toList ++ s!"{n} tile(s):".toList) := by
  have hwords : (toString " seen in ").toList = ' ' :: "seen in ".toList := by decide
  have hlabel : (toString (idLabel id)).toList = _ := toList_idLabel id
  simp [text, sayOf, String.toList_append, hlabel, hwords]

/-- The line for a missing id is said of it. -/
theorem toList_missing (id : UInt64) :
    (missing id).text.toList = sayOf id "not found in any scanned tile".toList :=
  toList_missingText id

/-- The mark is on headings with an id and on missing ids alone. -/
theorem Compares.marked (h : line.Compares) : (∃ id n, line = .heading (idLabel id) n) ∨
    (∃ id, line = .missing id) ∨ line.text.toList.head? ≠ some '#' := by
  have hsource : (toString "Source: ").toList = 'S' :: "ource: ".toList := by decide
  have hsearch : (toString "Search: ").toList = 'S' :: "earch: ".toList := by decide
  have hindent : (toString "  ").toList = [' ', ' '] := by decide
  -- Every kind of line but these two begins with something else than the sign of an id.
  cases h with
  | source name metadata =>
    refine .inr (.inr ?_)
    rw [text]
    split <;> simp [String.toList_append, hsource]
  | search query =>
    refine .inr (.inr ?_)
    simp [text, String.toList_append, hsearch]
  | blank => exact .inr (.inr (by decide))
  | status key outcome =>
    refine .inr (.inr ?_)
    have hkey : (toString key).toList = key.render.toList := rfl
    simp only [text, String.toList_append, hkey, TileKey.toList_render, List.append_assoc]
    exact head?_digits_append_ne (by decide) _ _
  | heading f places =>
    cases hid : f.id with
    | some id =>
      rw [Feature.label_of_id hid]
      exact .inl ⟨id, places, rfl⟩
    | none =>
      refine .inr (.inr ?_)
      have hlabel : (toString f.label).toList = f.label.toList := rfl
      simp only [text, String.toList_append, List.append_assoc, hlabel]
      exact Feature.head?_label_append_ne hid _
  | placement p =>
    refine .inr (.inr ?_)
    simp [text, String.toList_append, hindent]
  | missing id => exact .inr (.inl ⟨id, rfl⟩)
  | summary found scanned absent failed =>
    refine .inr (.inr ?_)
    have hfound : (toString found).toList = Nat.toDigits 10 found := by simp
    simp only [text, String.toList_append, List.append_assoc, hfound]
    exact head?_digits_append_ne (by decide) _ _

/-- A line that begins like the heading of an id is a heading of it. -/
theorem Compares.startsWith_iff (h : line.Compares) :
    line.text.startsWith (headingStart id) = true ↔ ∃ n, line = .heading (idLabel id) n := by
  rw [String.startsWith_string_iff, toList_headingStart, List.IsPrefix]
  simp only [sayOf_append]
  constructor
  · rintro ⟨rest, hrest⟩
    rcases h.marked with ⟨other, n, rfl⟩ | ⟨other, rfl⟩ | hunmarked
    · rw [toList_heading, sayOf_inj] at hrest
      exact ⟨n, hrest.1 ▸ rfl⟩
    · rw [toList_missing, sayOf_inj] at hrest
      exact absurd (congrArg List.head? hrest.2) (by simp)
    · exact absurd (hrest ▸ rfl) hunmarked
  · rintro ⟨n, rfl⟩
    exact ⟨_, (toList_heading id n).symm⟩

/-- The text about a missing id is that of one line. -/
theorem Compares.text_eq_iff (h : line.Compares) :
    line.text = missingText id ↔ line = .missing id := by
  refine ⟨fun htext => ?_, fun hline => hline ▸ rfl⟩
  have hlists := congrArg String.toList htext
  rw [toList_missingText] at hlists
  rcases h.marked with ⟨other, n, rfl⟩ | ⟨other, rfl⟩ | hunmarked
  · rw [toList_heading, sayOf_inj] at hlists
    exact absurd (congrArg List.head? hlists.2) (by simp)
  · rw [toList_missing, sayOf_inj] at hlists
    exact congrArg Line.missing hlists.1
  · rw [hlists] at hunmarked
    exact absurd rfl hunmarked

end Line

end TileScope
