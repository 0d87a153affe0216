import Mathlib
import TileScope.Text.Blank

/-!
# Texts without the blanks around them

Trimming takes away blanks in front and behind and nothing else (`exists_trimChars`), and it takes
away all of them (`trimChars_append`). So a text is its own trimmed form if and only if no blank is
at either end (`trimChars_eq_self_iff`).
-/

namespace TileScope.Text

variable {front mid back : List Char}

/-- The blanks in front and what is left are the text. -/
theorem takeWhile_append_dropBlanks (cs : List Char) : cs.takeWhile isBlank ++ dropBlanks cs = cs :=
  List.takeWhile_append_dropWhile

/-- The blanks behind are the last to be taken away. -/
theorem trimChars_append_takeWhile (cs : List Char) :
    trimChars cs ++ ((dropBlanks cs).reverse.takeWhile isBlank).reverse = dropBlanks cs := by
  rw [trimChars, dropBlanksEnd, ← List.reverse_append, takeWhile_append_dropBlanks,
    List.reverse_reverse]

/-- What is trimmed is the text but for blanks in front and behind. -/
theorem exists_trimChars (cs : List Char) : ∃ front back, cs = front ++ trimChars cs ++ back ∧
    (∀ c ∈ front, isBlank c = true) ∧ ∀ c ∈ back, isBlank c = true := by
  refine ⟨cs.takeWhile isBlank, ((dropBlanks cs).reverse.takeWhile isBlank).reverse, ?_,
    fun c => List.mem_takeWhile_imp, fun c hc => List.mem_takeWhile_imp (List.mem_reverse.1 hc)⟩
  rw [List.append_assoc, trimChars_append_takeWhile, takeWhile_append_dropBlanks]

/-- Blanks in front of a character that is none are dropped. -/
theorem dropBlanks_append (hfront : ∀ c ∈ front, isBlank c = true)
    (hmid : ∀ c ∈ mid.head?, isBlank c = false) : dropBlanks (front ++ mid) = mid := by
  rw [dropBlanks, List.dropWhile_append_of_pos hfront]
  cases mid with
  | nil => rfl
  | cons c rest => exact List.dropWhile_cons_of_neg (by simp [hmid c rfl])

/-- Blanks around a text that neither begins nor ends with one are all that is taken away. -/
theorem trimChars_append (hfront : ∀ c ∈ front, isBlank c = true)
    (hback : ∀ c ∈ back, isBlank c = true) (hfirst : ∀ c ∈ mid.head?, isBlank c = false)
    (hlast : ∀ c ∈ mid.getLast?, isBlank c = false) : trimChars (front ++ mid ++ back) = mid := by
  have hend : dropBlanksEnd (mid ++ back) = mid := by
    have hreverse : ∀ c ∈ back.reverse, isBlank c = true := fun c hc =>
      hback c (List.mem_reverse.1 hc)
    rw [dropBlanksEnd, List.reverse_append, dropBlanks_append hreverse
      (by rwa [List.head?_reverse]), List.reverse_reverse]
  cases mid with
  | nil =>
    -- The whole text is blank, and nothing is left for the second end.
    have hall : dropBlanks (front ++ [] ++ back) = [] := List.dropWhile_eq_nil_iff.2 fun c hc => by
      rw [List.append_nil] at hc
      exact (List.mem_append.1 hc).elim (hfront c) (hback c)
    rw [trimChars, hall]
    rfl
  | cons c rest =>
    rw [trimChars, List.append_assoc, dropBlanks_append hfront (by simpa using hfirst), hend]

/-- What is left begins with a character that is no blank. -/
theorem head?_dropBlanks (cs : List Char) : ∀ c ∈ (dropBlanks cs).head?, isBlank c = false := by
  intro c hc
  have := List.head?_dropWhile_not isBlank cs
  rw [show (cs.dropWhile isBlank).head? = some c from hc] at this
  simpa using this

/-- No blank is left at either end. -/
theorem trimChars_ends (cs : List Char) : (∀ c ∈ (trimChars cs).head?, isBlank c = false) ∧
    ∀ c ∈ (trimChars cs).getLast?, isBlank c = false := by
  constructor
  · intro c hc
    refine head?_dropBlanks cs c ?_
    rw [← trimChars_append_takeWhile, List.head?_append, Option.mem_def.1 hc]
    rfl
  · rw [trimChars, dropBlanksEnd, List.getLast?_reverse]
    exact head?_dropBlanks _

/-- A trimmed list neither begins nor ends with a blank. -/
theorem trimChars_eq_self_iff {cs : List Char} : trimChars cs = cs ↔
    (∀ c ∈ cs.head?, isBlank c = false) ∧ ∀ c ∈ cs.getLast?, isBlank c = false := by
  constructor
  · intro h
    have := trimChars_ends cs
    rwa [h] at this
  · intro ⟨hfirst, hlast⟩
    have : trimChars ([] ++ cs ++ []) = cs := trimChars_append nofun nofun hfirst hlast
    rwa [List.nil_append, List.append_nil] at this

/-- A trimmed text neither begins nor ends with a blank. -/
theorem trim_eq_self_iff {s : String} : trim s = s ↔
    (∀ c ∈ s.toList.head?, isBlank c = false) ∧ ∀ c ∈ s.toList.getLast?, isBlank c = false := by
  rw [← trimChars_eq_self_iff, ← String.toList_inj, trim, String.toList_ofList]

/-- Trimming twice is trimming once. -/
theorem trim_trim (s : String) : trim (trim s) = trim s := by
  rw [trim_eq_self_iff, trim, String.toList_ofList]
  exact trimChars_ends s.toList

/-- A text with a character that is no blank is not trimmed to nothing. -/
theorem trim_ne_empty {s : String} {c : Char} (hc : c ∈ s.toList) (h : isBlank c = false) :
    trim s ≠ "" := by
  intro hempty
  obtain ⟨front, back, hs, hfront, hback⟩ := exists_trimChars s.toList
  have hnil : trimChars s.toList = [] := by
    have := congrArg String.toList hempty
    rwa [trim, String.toList_ofList] at this
  rw [hs, hnil, List.append_nil, List.mem_append] at hc
  have hblank := hc.elim (hfront c) (hback c)
  rw [h] at hblank
  cases hblank

end TileScope.Text
