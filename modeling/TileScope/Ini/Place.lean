/-!
# Places in a text

A text is looked at as a row of marks, every character with the place where it stands. Lines and
columns count from 1, columns by characters; a line feed ends a line.
-/

namespace TileScope.Ini

/-- A line and a column. -/
structure Place where
  line : Nat := 1
  column : Nat := 1
deriving DecidableEq, Repr

/-- The place behind a character. -/
def Place.after (p : Place) (c : Char) : Place :=
  if c = '\n' then ⟨p.line + 1, 1⟩ else ⟨p.line, p.column + 1⟩

/-- The written form of a place. -/
def Place.render (p : Place) : String := s!"{p.line}:{p.column}"

/-- A character of a text. -/
structure Mark where
  char : Char
  place : Place
deriving DecidableEq, Repr

/-- The place behind a mark. -/
def Mark.behind (m : Mark) : Place := m.place.after m.char

/-- The marks of the characters from a place on. -/
def marksFrom (place : Place) : List Char → List Mark
  | [] => []
  | c :: rest => ⟨c, place⟩ :: marksFrom (place.after c) rest

/-- The marks of a text. -/
def marks (cs : List Char) : List Mark := marksFrom {} cs

/-- The place behind the last character of a text. -/
def lastPlace (cs : List Char) : Place := cs.foldl Place.after {}

end TileScope.Ini
