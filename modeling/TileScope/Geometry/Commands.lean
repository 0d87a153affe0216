import TileScope.Geometry.Basic
import TileScope.Number.Zigzag

/-!
# Drawing commands

A geometry is drawn by a row of integers. A command integer holds the command in its low three
bits and a count above them; a move or a line is followed by that many pairs of zigzag deltas from
the pen's position, a close by none. The pen starts at the origin and keeps its position from part
to part; closing a part does not move it.

| command | points | lines and rings |
| --- | --- | --- |
| move (1) | a point for each pair | ends the open part and begins a new one, for each pair |
| line (2) | not allowed | adds to the open part; there has to be one, also when the count is zero |
| close (7) | not allowed | adds the first vertex of the open part and ends it, whatever the count |
-/

namespace TileScope

/-- What a row of commands is drawn into. -/
inductive Shape where
  | point
  | lineString
  | polygon
deriving DecidableEq, Repr

/-- Why a row of commands cannot be drawn. -/
inductive DrawingFault where
  | lineInPoints
  | lineBeforeMove
  | closeInPoints
  | closeBeforeMove
  | unknownCommand (id : Nat)
  | missingParameters
  | xOverflow
  | yOverflow
deriving DecidableEq, Repr

/-- The wording of a drawing fault. -/
def DrawingFault.message : DrawingFault → String
  | .lineInPoints => "LineTo in a point geometry"
  | .lineBeforeMove => "LineTo before MoveTo"
  | .closeInPoints => "ClosePath in a point geometry"
  | .closeBeforeMove => "ClosePath before MoveTo"
  | .unknownCommand id => s!"unknown geometry command {id}"
  | .missingParameters => "geometry command is missing parameters"
  | .xOverflow => "x coordinate overflows i32"
  | .yOverflow => "y coordinate overflows i32"

/-- A drawing under way. -/
structure Drawing where
  /-- Where the pen is. -/
  pen : Point := ⟨0, 0⟩
  /-- The finished parts, last one first. -/
  parts : List (List Point) := []
  /-- The vertices of the open part, last one first; empty when no part is open. -/
  current : List Point := []
deriving DecidableEq, Repr

namespace Drawing

/-- A coordinate moved by a zigzag delta, if it stays within 32 bits. -/
def shift? (from_ : Int32) (code : UInt32) : Option Int32 :=
  let moved := from_.toInt + zigzag code.toNat
  if Int32.minValue.toInt ≤ moved ∧ moved ≤ Int32.maxValue.toInt then
    some (Int32.ofInt moved)
  else none

/-- Moves the pen by a pair of deltas. -/
def advance (d : Drawing) (dx dy : UInt32) : Except DrawingFault Drawing :=
  match shift? d.pen.x dx with
  | none => .error .xOverflow
  | some x =>
    match shift? d.pen.y dy with
    | none => .error .yOverflow
    | some y => .ok { d with pen := ⟨x, y⟩ }

/-- Ends the open part, if there is one. -/
def flush (d : Drawing) : Drawing :=
  if d.current.isEmpty then d
  else { d with parts := d.current.reverse :: d.parts, current := [] }

/-- Adds the pen's position to the open part. -/
def mark (d : Drawing) : Drawing := { d with current := d.pen :: d.current }

/-- What a vertex of a move does: points gather in one part, other shapes begin a new one. -/
def moved (shape : Shape) (d : Drawing) : Drawing :=
  match shape with
  | .point => d.mark
  | _ => d.flush.mark

/-- Reads `count` pairs of deltas; `place` says what a vertex does. -/
def vertices (place : Drawing → Drawing) : (count : Nat) → Drawing → List UInt32 →
    Except DrawingFault (Drawing × List UInt32)
  | 0, d, commands => .ok (d, commands)
  | count + 1, d, dx :: dy :: rest =>
    match d.advance dx dy with
    | .error e => .error e
    | .ok d => vertices place count (place d) rest
  | _ + 1, _, _ => .error .missingParameters

/-- Closes the open part with its first vertex. -/
def close (shape : Shape) (d : Drawing) : Except DrawingFault Drawing :=
  if shape = .point then .error .closeInPoints
  else
    match d.current.getLast? with
    | none => .error .closeBeforeMove
    | some first => .ok { d with current := first :: d.current }.flush

/-- Carries out one command on what follows it. -/
def command (shape : Shape) (d : Drawing) (integer : UInt32) (rest : List UInt32) :
    Except DrawingFault (Drawing × List UInt32) :=
  let count := integer.toNat / 8
  match integer.toNat % 8 with
  | 1 => vertices (moved shape) count d rest
  | 2 =>
    if shape = .point then .error .lineInPoints
    else if d.current.isEmpty then .error .lineBeforeMove
    else vertices mark count d rest
  | 7 => (d.close shape).map fun d => (d, rest)
  | id => .error (.unknownCommand id)

/-- Vertices leave no more integers than there were. -/
theorem vertices_length {place : Drawing → Drawing} {count : Nat} {d d' : Drawing}
    {commands rest : List UInt32} (h : vertices place count d commands = .ok (d', rest)) :
    rest.length ≤ commands.length := by
  fun_induction vertices place count d commands with
  | case1 =>
    simp only [Except.ok.injEq, Prod.mk.injEq] at h
    exact h.2 ▸ Nat.le_refl _
  | case2 => simp at h
  | case3 _ _ _ _ _ _ _ ih =>
    have := ih h
    simp only [List.length_cons]
    omega
  | case4 => simp at h

/-- A command leaves no more integers behind than there were. -/
theorem command_length {shape : Shape} {d d' : Drawing} {integer : UInt32}
    {commands rest : List UInt32} (h : d.command shape integer commands = .ok (d', rest)) :
    rest.length ≤ commands.length := by
  unfold command at h
  simp only at h
  split at h
  · exact vertices_length h
  · split at h
    · simp at h
    · split at h
      · simp at h
      · exact vertices_length h
  · cases hc : d.close shape with
    | error e => simp [hc, Except.map] at h
    | ok d =>
      simp only [hc, Except.map, Except.ok.injEq, Prod.mk.injEq] at h
      exact h.2 ▸ Nat.le_refl _
  · simp at h

/-- Carries out a row of commands. -/
def run (shape : Shape) (d : Drawing) : (commands : List UInt32) → Except DrawingFault Drawing
  | [] => .ok d
  | integer :: rest =>
    match _h : d.command shape integer rest with
    | .error e => .error e
    | .ok (d, rest) => run shape d rest
termination_by commands => commands.length
decreasing_by exact Nat.lt_succ_of_le (command_length _h)

/-- The geometry that has been drawn. -/
def geometry (shape : Shape) (d : Drawing) : Geometry :=
  match shape with
  | .point => .points d.current.reverse
  | .lineString => .lines d.flush.parts.reverse
  | .polygon => .rings d.flush.parts.reverse

end Drawing

/-- Draws a geometry. -/
def drawGeometry (shape : Shape) (commands : List UInt32) : Except DrawingFault Geometry :=
  (Drawing.run shape {} commands).map (Drawing.geometry shape)

end TileScope
