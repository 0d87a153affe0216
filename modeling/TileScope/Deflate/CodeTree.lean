import TileScope.Deflate.BitSource

/-!
# Prefix codes

A prefix code is a binary tree with symbols at its leaves. A compressed block gives only the
length of each symbol's code word; the code words are then fixed: shorter words come first, words
of one length come in the order of their symbols, and each takes the next free place from the left.
`CodeTree.ofLengths?` fills a tree in that order.

A set of lengths is taken when its words fill the tree exactly. Where the code allows it, a single
word of one bit is taken as well, and no word at all; reading into a free place is a fault of the
stream.
-/

namespace TileScope.Deflate

/-- A prefix code, with `free` where no word leads. -/
inductive CodeTree where
  | free
  | leaf (symbol : Nat)
  | fork (zero one : CodeTree)

namespace CodeTree

/-- The longest code word. -/
def maxLength : Nat := 15

/-- Fills the subtree at a depth, of at most `levels` further levels, from a list of lengths and
symbols with the lengths ascending. Gives the list that is left over. -/
def fill (depth : Nat) : (levels : Nat) → List (Nat × Nat) → CodeTree × List (Nat × Nat)
  | _, [] => (free, [])
  | 0, pending => (free, pending)
  | levels + 1, (length, symbol) :: rest =>
    if length = depth then (leaf symbol, rest)
    else
      let (zero, pending) := fill (depth + 1) levels ((length, symbol) :: rest)
      let (one, pending) := fill (depth + 1) levels pending
      (fork zero one, pending)

/-- The symbols that have a word, each with its length, shorter words first. -/
def ordered (lengths : List Nat) : List (Nat × Nat) :=
  (List.range' 1 maxLength).flatMap fun length =>
    lengths.zipIdx.filter fun e => e.1 = length

/-- How much of the tree the words take up, in leaves of the deepest level. -/
def weight (words : List (Nat × Nat)) : Nat :=
  words.foldl (fun total e => total + (1 <<< (maxLength - e.1))) 0

/-- The words leave places free in a way that a sparse code may: there is none, or one of one
bit. -/
def isSparse (words : List (Nat × Nat)) : Bool := words.isEmpty || words.map (·.1) == [1]

/-- The code in which symbol `i` has a word of the `i`-th length, or no word if that is zero. A
code without words is a fork all the same, so that reading from it takes a bit. -/
def ofLengths? (sparse : Bool) (lengths : List Nat) : Option CodeTree :=
  let words := ordered lengths
  if weight words = 1 <<< maxLength ∨ (sparse ∧ isSparse words) then
    some (if words.isEmpty then fork free free else (fill 0 (maxLength + 1) words).1)
  else none

/-- What a walk down a tree comes to. -/
inductive Arrival where
  /-- At a symbol. -/
  | symbol (symbol : Nat) (rest : BitSource)
  /-- At a place without a word. -/
  | astray
  /-- The bits ran out on the way. -/
  | starved

/-- Walks down from the root, one bit a level. -/
def walk : CodeTree → BitSource → Arrival
  | free, _ => .astray
  | leaf symbol, s => .symbol symbol s
  | fork zero one, s =>
    match s.next? with
    | none => .starved
    | some (bit, s) => if bit then walk one s else walk zero s

/-- Walking down a tree leaves no more bits than there were. -/
theorem walk_size {t : CodeTree} {s r : BitSource} {symbol : Nat}
    (h : t.walk s = .symbol symbol r) : r.size ≤ s.size := by
  induction t generalizing s with
  | free => simp [walk] at h
  | leaf _ =>
    simp only [walk, Arrival.symbol.injEq] at h
    exact h.2 ▸ Nat.le_refl _
  | fork zero one ihz iho =>
    rw [walk] at h
    split at h
    · simp at h
    · next bit t ht =>
      have := BitSource.next?_size ht
      split at h
      · exact Nat.le_trans (iho h) (Nat.le_of_lt this)
      · exact Nat.le_trans (ihz h) (Nat.le_of_lt this)

/-- Reads one symbol. A tree that is a single leaf has no word, and reading from it goes astray,
so that a symbol always takes at least one bit. -/
def read : CodeTree → BitSource → Arrival
  | fork zero one, s => walk (fork zero one) s
  | _, _ => .astray

/-- A symbol takes at least one bit. -/
theorem read_size {t : CodeTree} {s r : BitSource} {symbol : Nat}
    (h : t.read s = .symbol symbol r) : r.size < s.size := by
  cases t with
  | free => simp [read] at h
  | leaf _ => simp [read] at h
  | fork zero one =>
    rw [read, walk] at h
    split at h
    · simp at h
    · next bit t ht =>
      have := BitSource.next?_size ht
      split at h
      · exact Nat.lt_of_le_of_lt (walk_size h) this
      · exact Nat.lt_of_le_of_lt (walk_size h) this

end CodeTree

end TileScope.Deflate
