import TileScope.Proofs.Geometry.Command

/-!
# What a row of commands draws

Commands looked at from outside the drawing: their vertices are the sums of the deltas up to them,
taken without any bound, and their parts are cut out of the row of strokes. Each notion comes with
what it says about a row one command, or one pair of codes, at a time.
-/

namespace TileScope

/-- The place on one axis after the first `n` pairs of codes. -/
def reach (axis : UInt32 × UInt32 → UInt32) (codes : List (UInt32 × UInt32)) (n : Nat) : Int :=
  ((codes.take n).map fun c => zigzag (axis c).toNat).sum

/-- A number of 32 bits with a sign. -/
def FitsInt32 (n : Int) : Prop := -2 ^ 31 ≤ n ∧ n < 2 ^ 31

instance (n : Int) : Decidable (FitsInt32 n) := inferInstanceAs (Decidable (_ ∧ _))

/-- The numbers of 32 bits are those between the smallest and the largest one. -/
theorem fitsInt32_iff {n : Int} :
    FitsInt32 n ↔ Int32.minValue.toInt ≤ n ∧ n ≤ Int32.maxValue.toInt := by
  rw [Int32.toInt_minValue, Int32.toInt_maxValue, FitsInt32]
  omega

/-- The pen stays within 32 bits on both axes all the way. -/
def StaysInRange (codes : List (UInt32 × UInt32)) : Prop :=
  ∀ n ≤ codes.length, FitsInt32 (reach Prod.fst codes n) ∧ FitsInt32 (reach Prod.snd codes n)

instance (codes : List (UInt32 × UInt32)) : Decidable (StaysInRange codes) :=
  inferInstanceAs (Decidable (∀ n ≤ codes.length, _))

/-- The vertices that the pen is moved to. -/
def vertexList (codes : List (UInt32 × UInt32)) : List Point :=
  (List.range codes.length).map fun i =>
    ⟨Int32.ofInt (reach Prod.fst codes (i + 1)), Int32.ofInt (reach Prod.snd codes (i + 1))⟩

/-- A part is open after some commands: a move read a vertex, and no close came since. -/
def PartOpen (commands : List DrawCommand) : Prop :=
  ∃ before codes after, commands = before ++ .move codes :: after ∧ codes ≠ [] ∧
    ∀ c ∈ after, c.isClose = false

/-- Each command is a move, or finds an open part that is not a row of points. -/
def Permitted (shape : Shape) (commands : List DrawCommand) : Prop :=
  ∀ before c after, commands = before ++ c :: after →
    c.isMove ∨ (shape ≠ .point ∧ PartOpen before)

/-- Integers are commands that can be carried out, and the pen stays in range. -/
structure Drawable (shape : Shape) (integers : List UInt32) (commands : List DrawCommand) :
    Prop where
  splits : Splits integers commands
  permitted : Permitted shape commands
  stays : StaysInRange (commands.flatMap DrawCommand.codes)

/-- A vertex that begins a part, a vertex that goes on with the open part, or its end. -/
inductive Stroke where
  | start (vertex : Point)
  | extend (vertex : Point)
  | close
deriving DecidableEq, Repr

namespace Stroke

/-- The strokes of commands, which take their vertices from a list. -/
def ofCommands : List DrawCommand → List Point → List Stroke
  | [], _ => []
  | .move codes :: commands, vertices =>
    (vertices.take codes.length).map start ++ ofCommands commands (vertices.drop codes.length)
  | .line codes :: commands, vertices =>
    (vertices.take codes.length).map extend ++ ofCommands commands (vertices.drop codes.length)
  | .close _ :: commands, vertices => close :: ofCommands commands vertices

/-- What belongs to the part that is open in front of some strokes: its vertices up to the next
one that begins a part, or up to its end and then its first vertex again. -/
def continued (first : Point) : List Stroke → List Point
  | extend vertex :: strokes => vertex :: continued first strokes
  | close :: _ => [first]
  | _ => []

/-- At the end the open part has nothing more. -/
@[simp] theorem continued_nil (first : Point) : continued first [] = [] := rfl

/-- A vertex that goes on with the open part belongs to it. -/
@[simp] theorem continued_extend (first vertex : Point) (strokes : List Stroke) :
    continued first (extend vertex :: strokes) = vertex :: continued first strokes := rfl

/-- A close adds the first vertex and ends the part. -/
@[simp] theorem continued_close (first : Point) (strokes : List Stroke) :
    continued first (close :: strokes) = [first] := rfl

/-- The parts that strokes make up, one for each vertex that begins a part. -/
def parts : List Stroke → List (List Point)
  | [] => []
  | start vertex :: strokes => (vertex :: continued vertex strokes) :: parts strokes
  | _ :: strokes => parts strokes

end Stroke

/-- The geometry of a row of commands. -/
def drawnGeometry (shape : Shape) (commands : List DrawCommand) : Geometry :=
  let vertices := vertexList (commands.flatMap DrawCommand.codes)
  match shape with
  | .point => .points vertices
  | .lineString => .lines (Stroke.parts (Stroke.ofCommands commands vertices))
  | .polygon => .rings (Stroke.parts (Stroke.ofCommands commands vertices))

/-! ## The way of the pen -/

section Pen

variable {p : Point} {c : UInt32 × UInt32} {codes more : List (UInt32 × UInt32)}

/-- Where a pair of codes moves the pen. -/
def Point.moved (p : Point) (c : UInt32 × UInt32) : Point :=
  ⟨Int32.ofInt (p.x.toInt + zigzag c.1.toNat), Int32.ofInt (p.y.toInt + zigzag c.2.toNat)⟩

/-- From a point on, the pen stays within 32 bits. -/
def StaysFrom (p : Point) (codes : List (UInt32 × UInt32)) : Prop :=
  ∀ n ≤ codes.length, FitsInt32 (p.x.toInt + reach Prod.fst codes n) ∧
    FitsInt32 (p.y.toInt + reach Prod.snd codes n)

/-- The vertices from a point on. -/
def verticesFrom (p : Point) (codes : List (UInt32 × UInt32)) : List Point :=
  (List.range codes.length).map fun i => ⟨Int32.ofInt (p.x.toInt + reach Prod.fst codes (i + 1)),
    Int32.ofInt (p.y.toInt + reach Prod.snd codes (i + 1))⟩

/-- In front of all codes the place is zero. -/
@[simp] theorem reach_zero (axis : UInt32 × UInt32 → UInt32) : reach axis codes 0 = 0 := rfl

/-- The first code moves all places behind it. -/
theorem reach_cons (axis : UInt32 × UInt32 → UInt32) (n : Nat) :
    reach axis (c :: codes) (n + 1) = zigzag (axis c).toNat + reach axis codes n := rfl

/-- A number of 32 bits fits them. -/
theorem fitsInt32_toInt (n : Int32) : FitsInt32 n.toInt := ⟨n.le_toInt, n.toInt_lt⟩

/-- A number that fits 32 bits is not changed by cutting it to them. -/
theorem FitsInt32.toInt_ofInt {n : Int} (h : FitsInt32 n) : (Int32.ofInt n).toInt = n :=
  Int32.toInt_ofInt_of_le h.1 h.2

/-- Without codes the pen stays in range. -/
theorem staysFrom_nil : StaysFrom p [] := by
  intro n hn
  obtain rfl : n = 0 := Nat.le_zero.1 hn
  exact ⟨by simpa using fitsInt32_toInt p.x, by simpa using fitsInt32_toInt p.y⟩

/-- The pen stays in range if it does at the first pair of codes and from there on. -/
theorem staysFrom_cons : StaysFrom p (c :: codes) ↔
    FitsInt32 (p.x.toInt + zigzag c.1.toNat) ∧ FitsInt32 (p.y.toInt + zigzag c.2.toNat) ∧
      StaysFrom (p.moved c) codes := by
  constructor
  · intro h
    have h1 := h 1 (Nat.succ_le_succ (Nat.zero_le _))
    simp only [reach_cons, reach_zero, Int.add_zero] at h1
    refine ⟨h1.1, h1.2, fun n hn => ?_⟩
    have hn1 := h (n + 1) (Nat.succ_le_succ hn)
    simp only [reach_cons, ← Int.add_assoc] at hn1
    simpa only [Point.moved, h1.1.toInt_ofInt, h1.2.toInt_ofInt] using hn1
  · rintro ⟨hx, hy, h⟩ n hn
    cases n with
    | zero => exact staysFrom_nil 0 (Nat.le_refl 0)
    | succ n =>
      have hn' := h n (Nat.le_of_succ_le_succ hn)
      simp only [Point.moved, hx.toInt_ofInt, hy.toInt_ofInt] at hn'
      simpa only [reach_cons, ← Int.add_assoc] using hn'

/-- The pen stays in range if it does along the front and from there on. -/
theorem staysFrom_append : StaysFrom p (codes ++ more) ↔
    StaysFrom p codes ∧ StaysFrom (codes.foldl Point.moved p) more := by
  induction codes generalizing p with
  | nil => exact ⟨fun h => ⟨staysFrom_nil, h⟩, fun h => h.2⟩
  | cons c codes ih =>
    rw [List.cons_append, staysFrom_cons, staysFrom_cons, ih, List.foldl_cons]
    exact ⟨fun ⟨hx, hy, h, h'⟩ => ⟨⟨hx, hy, h⟩, h'⟩, fun ⟨⟨hx, hy, h⟩, h'⟩ => ⟨hx, hy, h, h'⟩⟩

/-- There is a vertex for each pair of codes. -/
@[simp] theorem length_verticesFrom : (verticesFrom p codes).length = codes.length := by
  rw [verticesFrom, List.length_map, List.length_range]

/-- The first vertex is where the first pair of codes moves the pen, if it stays in range. -/
theorem verticesFrom_cons (hx : FitsInt32 (p.x.toInt + zigzag c.1.toNat))
    (hy : FitsInt32 (p.y.toInt + zigzag c.2.toNat)) :
    verticesFrom p (c :: codes) = p.moved c :: verticesFrom (p.moved c) codes := by
  unfold verticesFrom
  rw [List.length_cons, List.range_succ_eq_map, List.map_cons, List.map_map]
  refine List.cons_eq_cons.2 ⟨?_, List.map_congr_left fun i _ => ?_⟩
  · simp only [reach_cons, reach_zero, Int.add_zero, Point.moved]
  · simp only [Function.comp, reach_cons, ← Int.add_assoc, Point.moved, hx.toInt_ofInt,
      hy.toInt_ofInt]

/-- Codes behind others start where these lead, if the pen stays in range. -/
theorem verticesFrom_append (h : StaysFrom p codes) :
    verticesFrom p (codes ++ more)
      = verticesFrom p codes ++ verticesFrom (codes.foldl Point.moved p) more := by
  induction codes generalizing p with
  | nil => rfl
  | cons c codes ih =>
    obtain ⟨hx, hy, h⟩ := staysFrom_cons.1 h
    rw [List.cons_append, verticesFrom_cons hx hy, ih h, verticesFrom_cons hx hy, List.cons_append,
      List.foldl_cons]

end Pen

/-! ## Open parts -/

section Permitted

variable {shape : Shape} {c : DrawCommand} {commands before : List DrawCommand} {o : Prop}

/-- Whether a part is open after a command, given whether one was before. -/
def DrawCommand.Opens : DrawCommand → Prop → Prop
  | .move codes, before => codes ≠ [] ∨ before
  | .line _, before => before
  | .close _, _ => False

/-- Each command is a move or finds an open part, given whether one is open in front. -/
def PermittedFrom (shape : Shape) : Prop → List DrawCommand → Prop
  | _, [] => True
  | o, c :: commands =>
    (c.isMove ∨ (shape ≠ .point ∧ o)) ∧ PermittedFrom shape (c.Opens o) commands

/-- A part is open after some commands, given whether one is open in front. -/
def OpenAfter (o : Prop) (commands : List DrawCommand) : Prop :=
  PartOpen commands ∨ (o ∧ ∀ c ∈ commands, c.isClose = false)

/-- At the start no part is open. -/
theorem not_partOpen_nil : ¬ PartOpen [] := by
  rintro ⟨before, codes, after, h, -⟩
  exact List.append_ne_nil_of_right_ne_nil _ (List.cons_ne_nil _ _) h.symm

/-- A part is open if one is by the commands behind the first, or by the first and no close came
since. -/
theorem partOpen_cons : PartOpen (c :: commands) ↔
    PartOpen commands ∨
      ∃ codes, c = .move codes ∧ codes ≠ [] ∧ ∀ c ∈ commands, c.isClose = false := by
  constructor
  · rintro ⟨_ | ⟨c', before⟩, codes, after, h, hcodes, hafter⟩
    · cases h
      exact .inr ⟨codes, rfl, hcodes, hafter⟩
    · cases h
      exact .inl ⟨before, codes, after, rfl, hcodes, hafter⟩
  · rintro (⟨before, codes, after, rfl, hcodes, hafter⟩ | ⟨codes, rfl, hcodes, hafter⟩)
    · exact ⟨c :: before, codes, after, rfl, hcodes, hafter⟩
    · exact ⟨[], codes, commands, rfl, hcodes, hafter⟩

/-- Without commands a part is open if one was. -/
theorem openAfter_nil : OpenAfter o [] ↔ o := by
  refine ⟨?_, fun h => .inr ⟨h, fun c hc => by cases hc⟩⟩
  rintro (h | ⟨h, -⟩)
  · exact absurd h not_partOpen_nil
  · exact h

/-- Commands behind one find what it leaves. -/
theorem openAfter_cons : OpenAfter o (c :: commands) ↔ OpenAfter (c.Opens o) commands := by
  unfold OpenAfter
  rw [partOpen_cons, List.forall_mem_cons]
  cases c with
  | move codes =>
    simp only [DrawCommand.Opens, DrawCommand.isClose, DrawCommand.move.injEq, true_and]
    constructor
    · rintro ((h | ⟨_, rfl, hcodes, h⟩) | ⟨ho, h⟩)
      · exact .inl h
      · exact .inr ⟨.inl hcodes, h⟩
      · exact .inr ⟨.inr ho, h⟩
    · rintro (h | ⟨hcodes | ho, h⟩)
      · exact .inl (.inl h)
      · exact .inl (.inr ⟨codes, rfl, hcodes, h⟩)
      · exact .inr ⟨ho, h⟩
  | line codes => simp [DrawCommand.Opens, DrawCommand.isClose]
  | close count => simp [DrawCommand.Opens, DrawCommand.isClose]

/-- Commands are permitted one by one if each is a move or finds an open part. -/
theorem permittedFrom_iff : PermittedFrom shape o commands ↔
    ∀ before c after, commands = before ++ c :: after →
      c.isMove ∨ (shape ≠ .point ∧ OpenAfter o before) := by
  induction commands generalizing o with
  | nil =>
    refine ⟨fun _ before c after h => ?_, fun _ => trivial⟩
    exact absurd h.symm (List.append_ne_nil_of_right_ne_nil _ (List.cons_ne_nil _ _))
  | cons c commands ih =>
    rw [PermittedFrom, ih]
    constructor
    · rintro ⟨hc, h⟩ (_ | ⟨c', before⟩) d after e
      · cases e
        rwa [openAfter_nil]
      · cases e
        rw [openAfter_cons]
        exact h before d after rfl
    · intro h
      refine ⟨?_, fun before d after e => ?_⟩
      · have hc := h [] c commands rfl
        rwa [openAfter_nil] at hc
      · have hd := h (c :: before) d after (by rw [e, List.cons_append])
        rwa [openAfter_cons] at hd

/-- From the start, when no part is open, commands are permitted one by one. -/
theorem permitted_iff : Permitted shape commands ↔ PermittedFrom shape False commands := by
  rw [permittedFrom_iff]
  simp only [Permitted, OpenAfter, false_and, or_false]

end Permitted

end TileScope
