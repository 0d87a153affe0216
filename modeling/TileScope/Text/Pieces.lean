/-!
# Pieces of a text

What stands between the places where a character comes. There is always at least one piece, and
the pieces with the character between them give the text back (`joined_pieces`).
-/

namespace TileScope.Text

/-- The pieces between the places of `mark`. -/
def pieces (mark : Char) : List Char → List (List Char)
  | [] => [[]]
  | c :: rest =>
    if c = mark then [] :: pieces mark rest
    else
      match pieces mark rest with
      | [] => [[c]]
      | piece :: more => (c :: piece) :: more

/-- Pieces with a character between them. -/
def joined (mark : Char) : List (List Char) → List Char
  | [] => []
  | [piece] => piece
  | piece :: more => piece ++ mark :: joined mark more

/-- There is always a piece. -/
theorem pieces_ne_nil (mark : Char) (cs : List Char) : pieces mark cs ≠ [] := by
  cases cs with
  | nil => simp [pieces]
  | cons c rest =>
    rw [pieces]
    split
    · simp
    · split <;> simp

/-- The pieces joined again are the text. -/
theorem joined_pieces (mark : Char) (cs : List Char) : joined mark (pieces mark cs) = cs := by
  induction cs with
  | nil => rfl
  | cons c rest ih =>
    rw [pieces]
    split
    · next h =>
      rw [joined.eq_3 _ _ _ (pieces_ne_nil mark rest), ih, h]
      rfl
    · split
      · next h => exact absurd h (pieces_ne_nil mark rest)
      · next piece more h =>
        rw [h] at ih
        cases more with
        | nil => rw [← ih]; rfl
        | cons => rw [← ih]; rfl

end TileScope.Text
