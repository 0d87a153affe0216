/-!
# Column names

A table is declared by a text: the names and types of its columns, between parentheses and set
apart by commas. A name may stand in quotes.
-/

namespace TileScope.Archive.File

/-- What stands between the outermost parentheses, split at the commas that are in no further
ones. -/
def declarations (depth : Nat) (current : List Char) : List Char → List (List Char)
  | [] => []
  | '(' :: rest =>
    if depth = 0 then declarations 1 [] rest else declarations (depth + 1) ('(' :: current) rest
  | ')' :: rest =>
    if depth ≤ 1 then [current.reverse] else declarations (depth - 1) (')' :: current) rest
  | c :: rest =>
    if c = ',' ∧ depth = 1 then current.reverse :: declarations 1 [] rest
    else declarations depth (c :: current) rest

/-- A blank or quote around a name. -/
def isAround (c : Char) : Bool := c.isWhitespace || c ∈ ['"', '\'', '[', ']', Char.ofNat 96]

/-- The name that a declaration starts with. -/
def declaredName (cs : List Char) : String :=
  String.ofList (((cs.dropWhile isAround).takeWhile (!isAround ·)).map Char.toLower)

/-- The names of the columns of a table. -/
def columnNames (declaration : String) : List String :=
  (declarations 0 [] declaration.toList).map declaredName

end TileScope.Archive.File
