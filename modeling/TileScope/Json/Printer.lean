import TileScope.Json.Value
import TileScope.Number.Layout
import TileScope.Text.Digit

/-!
# JSON text

JSON values are laid out one item a line, with an indent of two blanks a level; an empty array or
object stands on one line. Text is quoted with the short escapes where there is one, other control
characters as four hexadecimal digits, and everything else as it is. A real number that JSON has no
form for is written as `null`.
-/

namespace TileScope.Json

/-- One character inside quotes. -/
def escape (c : Char) : List Char :=
  match c with
  | '"' => ['\\', '"']
  | '\\' => ['\\', '\\']
  | '\n' => ['\\', 'n']
  | '\r' => ['\\', 'r']
  | '\t' => ['\\', 't']
  | '\x08' => ['\\', 'b']
  | '\x0c' => ['\\', 'f']
  | c =>
    if c.toNat < 0x20 then
      ['\\', 'u', '0', '0', Text.hexDigit (c.toNat / 16), Text.hexDigit (c.toNat % 16)]
    else [c]

/-- A text in quotes. -/
def quote (s : String) : String := "\"" ++ String.ofList (s.toList.flatMap escape) ++ "\""

/-- A value that is neither an array nor an object. -/
def scalar : Json → String
  | null => "null"
  | bool b => if b then "true" else "false"
  | whole n => toString n
  | real d => d.json?.getD "null"
  | text s => quote s
  | array _ => "[]"
  | object _ => "\x7b\x7d"

/-- The start of a line at a depth. -/
def indent (depth : Nat) : String := "\n" ++ String.ofList (List.replicate (2 * depth) ' ')

mutual

/-- Writes a value over several lines behind a text, its inner lines below a depth. -/
def prettyOnto (depth : Nat) (out : String) : Json → String
  | array (item :: rest) =>
    prettyItems (depth + 1) (out ++ "[") (item :: rest) ++ indent depth ++ "]"
  | object (field :: rest) =>
    prettyFields (depth + 1) (out ++ "\x7b") (field :: rest) ++ indent depth ++ "\x7d"
  | value => out ++ scalar value

/-- Writes items, each on a line of its own. -/
def prettyItems (depth : Nat) (out : String) : List Json → String
  | [] => out
  | [item] => prettyOnto depth (out ++ indent depth) item
  | item :: rest => prettyItems depth (prettyOnto depth (out ++ indent depth) item ++ ",") rest

/-- Writes fields, each on a line of its own. -/
def prettyFields (depth : Nat) (out : String) : List (String × Json) → String
  | [] => out
  | [(name, value)] => prettyOnto depth (out ++ indent depth ++ quote name ++ ": ") value
  | (name, value) :: rest =>
    prettyFields depth (prettyOnto depth (out ++ indent depth ++ quote name ++ ": ") value ++ ",")
      rest

end

/-- The value over several lines. -/
def pretty (value : Json) : String := prettyOnto 0 "" value

end TileScope.Json
