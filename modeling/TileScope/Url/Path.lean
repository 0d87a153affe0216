import TileScope.Text.Pieces
import TileScope.Url.Escape

/-!
# Paths of addresses

A path is parts with a slash in front of each. A part of one dot goes, and one of two dots goes with
the part in front of it; what is left ends in a slash if such a part was the last. A dot may also be
written as `%2e`.

A part that is a letter and a colon or a vertical bar names a drive, which two dots do not leave,
nor do they if a backslash follows that does not count as a slash. The path of a file has the drive
first, with a colon, and no empty parts in front.

| written | normal form |
| --- | --- |
| `/a/./b` | `/a/b` |
| `/a/../b` | `/b` |
| `/a/..` | `/` |
| `/C:/..` | `/C:/` |
-/

namespace TileScope.Url.Path

/-- A part that stands for itself: a single dot. -/
def isHere (part : List Char) : Bool :=
  part = ['.'] || (part.map Char.toLower) = ['%', '2', 'e']

/-- A part that stands for the one above: two dots. -/
def isUp (part : List Char) : Bool :=
  match part.map Char.toLower with
  | ['.', '.'] | ['.', '%', '2', 'e'] => true
  | ['%', '2', 'e', '.'] | ['%', '2', 'e', '%', '2', 'e'] => true
  | _ => false

/-- A part that names a drive. -/
def isDrive : List Char → Bool
  | [c, mark] => c.isAlpha && (mark = ':' || mark = '|')
  | _ => false

/-- A part that starts with a drive, up to its end or to a backslash. -/
def startsWithDrive (part : List Char) : Bool := isDrive (part.takeWhile (· ≠ '\\'))

/-- The parts above, nearest first. -/
def above : List (List Char) → List (List Char)
  | [] => []
  | part :: more => if startsWithDrive part then part :: more else more

/-- Puts a part behind those in front, nearest first. The first part of a file's path, if it names a
drive, gets a colon. -/
def push (k : Kind) (before : List (List Char)) (part : List Char) : List (List Char) :=
  if k = .file ∧ before = [] ∧ isDrive part then [part.take 1 ++ [':']] else part :: before

/-- The parts without dots; `before` are those in front, nearest first. -/
def withoutDots (k : Kind) (before : List (List Char)) : List (List Char) → List (List Char)
  | [] => before.reverse
  | part :: rest =>
    if isUp part then
      if rest = [] then ([] :: above before).reverse else withoutDots k (above before) rest
    else if isHere part then
      if rest = [] then ([] :: before).reverse else withoutDots k before rest
    else withoutDots k (push k before part) rest

/-- The parts of a text without dots. Slashes stand between the parts and may stand in front. -/
def parts (k : Kind) (cs : List Char) : List (List Char) :=
  withoutDots k [] <|
    match cs.map fun c => if k.isSlash c then '/' else c with
    | '/' :: rest => Text.pieces '/' rest
    | cs => Text.pieces '/' cs

/-- The written form of parts. -/
def render (parts : List (List Char)) : String :=
  "/" ++ String.intercalate "/" (parts.map (escape notInPath))

/-- The path of a text in normal form. -/
def normal (k : Kind) (cs : List Char) : String :=
  let parts := parts k cs
  render (if k = .file then parts.dropWhile (· = []) else parts)

/-- The path of a file starts with a drive. -/
def hasDrive (cs : List Char) : Bool := (parts .file cs).head?.any isDrive

end TileScope.Url.Path
