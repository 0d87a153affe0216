/-!
# Fragments

A fragment of a text is a run of consecutive characters of it. The empty text is a fragment of
every text.
-/

namespace TileScope.Text

/-- Whether `part` stands somewhere in `whole` as one run. -/
def occursIn (part : List Char) : List Char → Bool
  | [] => part.isEmpty
  | c :: rest => part.isPrefixOf (c :: rest) || occursIn part rest

/-- **A search for a fragment is a search for a run**: the fragment stands in the text exactly
when the text is something, then the fragment, then something. -/
theorem occursIn_iff {part whole : List Char} : occursIn part whole = true ↔ part <:+: whole := by
  induction whole with
  | nil => simp [occursIn, List.isEmpty_iff]
  | cons c rest ih => simp [occursIn, ih, List.infix_cons_iff]

/-- Whether `part` is a fragment of `whole`. -/
def contains (whole part : String) : Bool := occursIn part.toList whole.toList

end TileScope.Text
