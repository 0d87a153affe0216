import TileScope.Text.Pieces

/-!
# Paths

A path is a text whose parts are set apart by slashes. One with a slash in front is absolute.
Slashes in a row count as one, and so does a lone dot between two of them, except in front of a path
that is not absolute.

| path | parts |
| --- | --- |
| `/a//b/` | root, `a`, `b` |
| `./a/./b` | here, `a`, `b` |
| `a/../b` | `a`, up, `b` |
-/

namespace TileScope

/-- A part of a path. -/
inductive PathPart where
  | root
  | here
  | up
  | name (name : String)
deriving DecidableEq, Repr

namespace Path

/-- The text is an absolute path. -/
def isAbsolute (path : List Char) : Bool := path.head? = some '/'

/-- The part that a piece stands for behind a slash. -/
def part? (piece : List Char) : Option PathPart :=
  if piece = [] ∨ piece = ['.'] then none
  else if piece = ['.', '.'] then some .up
  else some (.name (String.ofList piece))

/-- The parts of a path. -/
def parts (path : String) : List PathPart :=
  match Text.pieces '/' path.toList with
  | [] => []
  | first :: rest =>
    let start :=
      if isAbsolute path.toList then [PathPart.root]
      else if first = ['.'] then [.here]
      else (part? first).toList
    start ++ rest.filterMap part?

/-- A path seen from a directory. An absolute path stays what it is. -/
def join (directory path : String) : String :=
  if isAbsolute path.toList then path
  else if directory.isEmpty || directory.toList.getLast? = some '/' then directory ++ path
  else directory ++ "/" ++ path

/-- A path with the home directory in the place of a tilde in front. -/
def expandHome (home path : String) : String :=
  match path.toList with
  | '~' :: '/' :: rest => join home (String.ofList rest)
  | _ => path

/-- The name that a path ends with. -/
def fileName? (path : String) : Option String :=
  match (parts path).getLast? with
  | some (.name n) => some n
  | _ => none

/-- The directory of what a path names: what stands in front of its last name. -/
def directory (path : String) : String :=
  let front := (path.toList.reverse.dropWhile (· = '/')).dropWhile (· ≠ '/')
  if front.isEmpty then "." else String.ofList front.reverse

/-- How a path ends. -/
inductive Ending where
  /-- In a name. -/
  | name
  /-- In slashes behind a name. -/
  | slashes
  /-- In a lone dot behind a slash, or slashes behind that. -/
  | dot
deriving DecidableEq, Repr

/-- How a path ends that has a last name. -/
def ending (path : String) : Ending :=
  match (Text.pieces '/' path.toList).reverse with
  | [] :: rest =>
    match rest.find? (· ≠ []) with
    | some ['.'] => .dot
    | _ => .slashes
  | ['.'] :: _ => .dot
  | _ => .name

end Path

end TileScope
