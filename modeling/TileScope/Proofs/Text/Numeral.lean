import Mathlib
import TileScope.Text.Blank
import TileScope.Text.Unsigned

/-!
# Written numbers

The digits of a number, as they may be written: at least one, zeros in front or not, and a plus sign
in front of them or not (`Numeral`). A number is read off just these texts, if it is below the bound
(`unsigned?_eq_some_iff`).
-/

namespace TileScope.Text

variable {cs : List Char} {n : Nat} {c : Char}

/-- Digits that write a number, at least one; zeros may lead. -/
structure Digits (n : Nat) (cs : List Char) : Prop where
  ne_nil : cs ≠ []
  isDigit : ∀ c ∈ cs, c.isDigit = true
  value : Nat.ofDigitChars 10 cs 0 = n

/-- Digits that write a number, with a plus sign in front or without. -/
inductive Numeral (n : Nat) : List Char → Prop
  | plain {cs : List Char} (h : Digits n cs) : Numeral n cs
  | signed {cs : List Char} (h : Digits n cs) : Numeral n ('+' :: cs)

/-- A character is a digit of its distance from zero. -/
theorem digit?_eq_some_iff {d : Nat} :
    digit? c = some d ↔ c.isDigit = true ∧ c.toNat - '0'.toNat = d := by
  simp [digit?, Char.isDigit, Char.le_def]

/-- Digits behind a value make the number that they are written for. -/
theorem digitsFrom_eq_some_iff {value : Nat} : digitsFrom value cs = some n ↔
    (∀ c ∈ cs, c.isDigit = true) ∧ Nat.ofDigitChars 10 cs value = n := by
  induction cs generalizing value with
  | nil => simp [digitsFrom]
  | cons c cs ih =>
    simp only [digitsFrom, Option.bind_eq_some_iff, digit?_eq_some_iff, ih, List.forall_mem_cons,
      Nat.ofDigitChars_cons]
    grind

/-- Some characters are digits of the number that they are written for. -/
theorem digits?_eq_some_iff : digits? cs = some n ↔ Digits n cs := by
  cases cs with
  | nil => exact ⟨nofun, fun h => absurd rfl h.ne_nil⟩
  | cons c cs =>
    rw [digits?, digitsFrom_eq_some_iff]
    · exact ⟨fun h => ⟨List.cons_ne_nil _ _, h.1, h.2⟩, fun h => ⟨h.isDigit, h.value⟩⟩
    · exact nofun

/-- Behind a plus sign a numeral is digits. -/
theorem numeral_signed_iff : Numeral n ('+' :: cs) ↔ Digits n cs := by
  constructor
  · rintro (h | h)
    · exact absurd (h.isDigit '+' List.mem_cons_self) (by decide)
    · exact h
  · exact .signed

/-- A number is read from its numerals, if it is below the bound. -/
theorem unsigned?_eq_some_iff {bound : Nat} :
    unsigned? bound cs = some n ↔ Numeral n cs ∧ n < bound := by
  unfold unsigned?
  rw [Option.filter_eq_some_iff, digits?_eq_some_iff, decide_eq_true_eq]
  refine and_congr_left fun _ => ?_
  split
  · exact numeral_signed_iff.symm
  · next hsign =>
    constructor
    · exact .plain
    · rintro (h | h)
      · exact h
      · exact absurd rfl (hsign _)

/-! ## The characters of a number -/

/-- A digit is no blank. -/
theorem isBlank_of_isDigit (h : c.isDigit = true) : isBlank c = false := by
  simp only [Char.isDigit, Bool.and_eq_true, decide_eq_true_eq, ge_iff_le,
    UInt32.le_iff_toNat_le] at h
  have hlow : 48 ≤ c.toNat := h.1
  have hhigh : c.toNat ≤ 57 := h.2
  simp [isBlank]
  omega

/-- A number has no blanks and no slashes. -/
theorem Numeral.of_mem (h : Numeral n cs) (hc : c ∈ cs) : isBlank c = false ∧ c ≠ '/' := by
  have hdigit {c : Char} (h : c.isDigit = true) : isBlank c = false ∧ c ≠ '/' :=
    ⟨isBlank_of_isDigit h, by rintro rfl; cases h⟩
  rcases h with h | h
  · exact hdigit (h.isDigit c hc)
  · rcases List.mem_cons.1 hc with rfl | hc
    · decide
    · exact hdigit (h.isDigit c hc)

/-- Decimal digits write their number, also behind zeros. -/
theorem digits_padded (zeros n : Nat) :
    Digits n (List.replicate zeros '0' ++ Nat.toDigits 10 n) where
  ne_nil := fun h => Nat.toDigits_ne_nil (List.append_eq_nil_iff.1 h).2
  isDigit := fun c hc => by
    rcases List.mem_append.1 hc with hc | hc
    · rw [List.eq_of_mem_replicate hc]
      rfl
    · exact Nat.isDigit_of_mem_toDigits (by decide) (by decide) hc
  value := by
    rw [Nat.ofDigitChars_append, Nat.ofDigitChars_replicate_zero, Nat.mul_zero,
      Nat.ofDigitChars_ten_toDigits]

end TileScope.Text
