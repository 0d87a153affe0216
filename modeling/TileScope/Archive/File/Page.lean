import TileScope.Archive.File.Header

/-!
# Tables in pages

A table is a tree of pages: a leaf holds rows, and any other page leads to further pages. The bytes
of a row stand on its leaf, as many as fit, and the rest on pages that are chained to one another.
Where the pages break these rules, reading ends with a fault.
-/

namespace TileScope.Archive.File

/-- A number of up to nine bytes, seven bits each and eight in the ninth, and the index behind
it. -/
def variableFrom (b : ByteArray) (value i : Nat) : (room : Nat) → Nat × Nat
  | 0 => (256 * value + byteAt b i, i + 1)
  | room + 1 =>
    let byte := byteAt b i
    if byte < 128 then (128 * value + byte, i + 1)
    else variableFrom b (128 * value + (byte - 128)) (i + 1) room

/-- The number of variable length at an index, and the index behind it. -/
def variableAt (b : ByteArray) (i : Nat) : Nat × Nat := variableFrom b 0 i 8

/-- What is found one after another, and the fault that ends it, if any. -/
structure Run (α : Type) where
  found : List α
  fault : Option ReadError

namespace Run

/-- The answers up to the first fault. -/
def ofAnswers {α : Type} : List (Except ReadError α) → Run α
  | [] => ⟨[], none⟩
  | .error e :: _ => ⟨[], some e⟩
  | .ok a :: rest =>
    let run := ofAnswers rest
    ⟨a :: run.found, run.fault⟩

/-- What is made of everything found, where making may come to a fault itself. -/
def mapAnswers {α β : Type} (f : α → Except ReadError β) (r : Run α) : Run β :=
  let made := ofAnswers (r.found.map f)
  ⟨made.found, made.fault <|> r.fault⟩

end Run

namespace Pages

/-- Where a page starts. -/
def start (p : Pages) (page : Nat) : Nat := (page - 1) * p.size

/-- The page is one of the file. -/
def has (p : Pages) (page : Nat) : Bool := 0 < page && page ≤ p.count

/-- The next `n` bytes of a row that stand on chained pages. Takes at most `room` pages. -/
def chained (p : Pages) (n page : Nat) : (room : Nat) → Except ReadError (List ByteArray)
  | 0 => if n = 0 then .ok [] else .error .malformed
  | room + 1 =>
    if n = 0 then .ok []
    else if !p.has page then .error .malformed
    else
      let here := min n (p.used - 4)
      let start := p.start page
      (p.chained (n - here) (numberAt p.bytes start 4) room).map
        (p.bytes.extract (start + 4) (start + 4 + here) :: ·)

/-- How many of the `n` bytes of a row stand on its own page. -/
def localSize (p : Pages) (n : Nat) : Nat :=
  let most := p.used - 35
  let least := (p.used - 12) * 32 / 255 - 23
  let fitting := least + (n - least) % (p.used - 4)
  if n ≤ most then n else if fitting ≤ most then fitting else least

/-- The bytes from an index on, with zeros behind the end of the file. -/
def extract (p : Pages) (i n : Nat) : ByteArray :=
  let bytes := p.bytes.extract i (i + n)
  bytes ++ ByteArray.mk (Array.replicate (n - bytes.size) 0)

/-- The bytes of the row at an index of a page. A row that goes on elsewhere keeps clear of the
bytes of its page that are not in use. -/
def row (p : Pages) (page offset : Nat) : Except ReadError ByteArray :=
  let (n, i) := variableAt p.bytes (p.start page + offset)
  let (_, i) := variableAt p.bytes i
  let here := p.localSize n
  let room := if here = n then p.size else p.used
  if p.start page + room < i + here then .error .malformed
  else
    (p.chained (n - here) (numberAt p.bytes (i + here) 4) p.count).map fun rest =>
      rest.foldl (· ++ ·) (p.extract i here)

/-- The deepest tree that is read. -/
def maxDepth : Nat := 20

/-- The rows of a tree of at most `levels` levels, from left to right. A page below the first one
of a table is not empty. -/
def rowsAt (p : Pages) (first : Bool) : (levels page : Nat) → List (Except ReadError ByteArray)
  | 0, _ => [.error .malformed]
  | levels + 1, page =>
    let head := p.start page + if page = 1 then 100 else 0
    let cells := numberAt p.bytes (head + 3) 2
    let offsetAt := fun head k => numberAt p.bytes (head + 2 * k) 2 % p.size
    let mayBeEmpty := first && (page = 1 || byteAt p.bytes head = 13)
    if !p.has page ∨ (p.size - 8) / 6 < cells ∨ (cells = 0 ∧ !mayBeEmpty) then
      [.error .malformed]
    else
      match byteAt p.bytes head with
      | 13 => (List.range cells).map fun k => p.row page (offsetAt (head + 8) k)
      | 5 =>
        let children := (List.range cells).map fun k =>
          numberAt p.bytes (p.start page + offsetAt (head + 12) k) 4
        (children ++ [numberAt p.bytes (head + 8) 4]).flatMap (p.rowsAt false levels)
      | _ => [.error .malformed]

/-- The rows of the table that starts on a page. -/
def rows (p : Pages) (page : Nat) : Run ByteArray := .ofAnswers (p.rowsAt true maxDepth page)

end Pages

end TileScope.Archive.File
