import TileScope.Number.Double

/-!
# JSON values

The values that machine-readable reports are made of. The fields of an object are kept in the
order in which they are written; `Json.record` puts them in the order of their names.
-/

namespace TileScope

/-- A JSON value. -/
inductive Json where
  | null
  | bool (b : Bool)
  | whole (n : Int)
  | real (d : Double)
  | text (s : String)
  | array (items : List Json)
  | object (fields : List (String × Json))
deriving Inhabited

namespace Json

/-- A number of things. -/
def count (n : Nat) : Json := .whole n

/-- A value that may be missing. -/
def ofOption {α : Type} (f : α → Json) : Option α → Json
  | none => .null
  | some a => f a

/-- An object with its fields in the order of their names. -/
def record (fields : List (String × Json)) : Json :=
  .object (fields.mergeSort fun a b => decide (a.1 ≤ b.1))

end Json

end TileScope
