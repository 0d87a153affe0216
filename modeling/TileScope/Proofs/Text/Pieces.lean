import Mathlib
import TileScope.Text.Pieces

/-!
# Numbers between marks

A number in a text ends in front of the first character that is no digit, so texts of a number, a
mark and a rest are told apart by the number and the rest (`digits_append_inj`).
-/

namespace TileScope.Text

variable {mark : Char} {cs rest : List Char}

/-- A text without the mark is one piece. -/
theorem pieces_of_not_mem (h : mark ∉ cs) : pieces mark cs = [cs] := by
  induction cs with
  | nil => rfl
  | cons c cs ih =>
    rw [List.mem_cons, not_or] at h
    rw [pieces, if_neg (Ne.symm h.1), ih h.2]

/-- A mark parts the pieces in front of it from those behind it. -/
theorem pieces_append_mark (cs rest : List Char) :
    pieces mark (cs ++ mark :: rest) = pieces mark cs ++ pieces mark rest := by
  induction cs with
  | nil => rw [List.nil_append, pieces.eq_2, if_pos rfl, pieces, List.singleton_append]
  | cons c cs ih =>
    rw [List.cons_append, pieces, pieces, ih]
    split
    · rw [List.cons_append]
    · cases hcs : pieces mark cs with
      | nil => exact absurd hcs (pieces_ne_nil mark cs)
      | cons piece more => rfl

/-- The first piece ends in front of the first mark. -/
theorem pieces_append (h : mark ∉ cs) (rest : List Char) :
    pieces mark (cs ++ mark :: rest) = cs :: pieces mark rest := by
  rw [pieces_append_mark, pieces_of_not_mem h, List.singleton_append]

/-- A mark that is no digit is not in the digits of a number. -/
theorem notMem_digits (hmark : mark.isDigit = false) (n : Nat) : mark ∉ Nat.toDigits 10 n :=
  fun h => by
    have hdigit := Nat.isDigit_of_mem_toDigits (by decide) (by decide) h
    rw [hmark] at hdigit
    cases hdigit

/-- Different numbers have different digits. -/
theorem digits_injective : Function.Injective (Nat.toDigits 10) :=
  Function.LeftInverse.injective fun _ => Nat.ofDigitChars_ten_toDigits

/-- A number and what follows a mark behind it can be read off again. -/
theorem digits_append_inj (hmark : mark.isDigit = false) {m n : Nat} {r s : List Char}
    (h : Nat.toDigits 10 m ++ mark :: r = Nat.toDigits 10 n ++ mark :: s) : m = n ∧ r = s := by
  have hpieces := congrArg (pieces mark) h
  rw [pieces_append (notMem_digits hmark m), pieces_append (notMem_digits hmark n)] at hpieces
  have hdigits : Nat.toDigits 10 m = Nat.toDigits 10 n := (List.cons.inj hpieces).1
  rw [hdigits] at h
  exact ⟨digits_injective hdigits, (List.cons.inj (List.append_cancel_left h)).2⟩

end TileScope.Text
