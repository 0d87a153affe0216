import Mathlib
import TileScope.Geometry.Commands

/-!
# Rows of commands

A row of integers read as commands: each command is one integer, for its number and its count, and
then the codes it moves by. A drawing run over integers is the same as the commands carried out
one after the other (`run_eq_ok_iff`); a row of integers that is no row of commands cannot be run.
-/

namespace TileScope

/-- A command with the codes that follow it, in pairs. A close has a count and no codes. -/
inductive DrawCommand where
  | move (codes : List (UInt32 × UInt32))
  | line (codes : List (UInt32 × UInt32))
  | close (count : Nat)
deriving DecidableEq, Repr

namespace DrawCommand

/-- The codes of a command. -/
def codes : DrawCommand → List (UInt32 × UInt32)
  | move codes => codes
  | line codes => codes
  | close _ => []

/-- The count in the integer of a command. -/
def count : DrawCommand → Nat
  | move codes => codes.length
  | line codes => codes.length
  | close count => count

/-- The number in the integer of a command. -/
def id : DrawCommand → Nat
  | move _ => 1
  | line _ => 2
  | close _ => 7

def isMove : DrawCommand → Bool
  | move _ => true
  | _ => false

def isClose : DrawCommand → Bool
  | close _ => true
  | _ => false

/-- The codes of a command in a row, x before y. -/
def parameters (codes : List (UInt32 × UInt32)) : List UInt32 := codes.flatMap fun c => [c.1, c.2]

/-- The integers of a command. -/
def integers (c : DrawCommand) : List UInt32 :=
  (8 * c.count + c.id).toUInt32 :: parameters c.codes

end DrawCommand

/-- A row of integers is a row of commands, with nothing left over. A count has 29 bits. -/
def Splits (integers : List UInt32) (commands : List DrawCommand) : Prop :=
  (∀ c ∈ commands, c.count < 2 ^ 29) ∧ commands.flatMap DrawCommand.integers = integers

instance (integers : List UInt32) (commands : List DrawCommand) :
    Decidable (Splits integers commands) := inferInstanceAs (Decidable (_ ∧ _))

namespace Drawing

/-- Moves the pen by pairs of codes; `place` says what a vertex does. -/
def trace (place : Drawing → Drawing) :
    List (UInt32 × UInt32) → Drawing → Except DrawingFault Drawing
  | [], d => .ok d
  | c :: codes, d =>
    match d.advance c.1 c.2 with
    | .error e => .error e
    | .ok d => trace place codes (place d)

/-- Carries out a command. -/
def perform (shape : Shape) (d : Drawing) : DrawCommand → Except DrawingFault Drawing
  | .move codes => trace (moved shape) codes d
  | .line codes =>
    if shape = .point then .error .lineInPoints
    else if d.current.isEmpty then .error .lineBeforeMove
    else trace mark codes d
  | .close _ => d.close shape

/-- Carries out commands one after the other. -/
def performAll (shape : Shape) : List DrawCommand → Drawing → Except DrawingFault Drawing
  | [], d => .ok d
  | c :: commands, d =>
    match d.perform shape c with
    | .error e => .error e
    | .ok d => performAll shape commands d

section Integers

variable {shape : Shape} {d d' : Drawing} {rest : List UInt32}

/-- Vertices are read from their codes, each one placed in its turn. -/
theorem vertices_parameters (place : Drawing → Drawing) (codes : List (UInt32 × UInt32))
    (d : Drawing) (rest : List UInt32) :
    vertices place codes.length d (DrawCommand.parameters codes ++ rest)
      = (trace place codes d).map fun d => (d, rest) := by
  induction codes generalizing d with
  | nil => rfl
  | cons c codes ih =>
    show vertices place (codes.length + 1) d (c.1 :: c.2 :: (DrawCommand.parameters codes ++ rest))
      = _
    rw [vertices, trace]
    cases d.advance c.1 c.2 with
    | error e => rfl
    | ok d => exact ih (place d)

/-- What was read as vertices is so many pairs of codes. -/
theorem parameters_of_vertices {place : Drawing → Drawing} {n : Nat} {s : List UInt32}
    (h : vertices place n d s = .ok (d', rest)) :
    ∃ codes, codes.length = n ∧ s = DrawCommand.parameters codes ++ rest := by
  fun_induction vertices place n d s with
  | case1 =>
    cases h
    exact ⟨[], rfl, rfl⟩
  | case2 => cases h
  | case3 n d dx dy s d₁ hd ih =>
    obtain ⟨codes, rfl, rfl⟩ := ih h
    exact ⟨(dx, dy) :: codes, rfl, rfl⟩
  | case4 => cases h

/-- The integer of a command has its count and its number. -/
theorem toNat_integer (c : DrawCommand) (h : c.count < 2 ^ 29) :
    (8 * c.count + c.id).toUInt32.toNat = 8 * c.count + c.id := by
  refine UInt32.toNat_ofNat_of_lt' ?_
  show _ < 2 ^ 32
  cases c <;> simp only [DrawCommand.id] <;> omega

/-- A command is carried out from the integers it is written in. -/
theorem command_integers (c : DrawCommand) (h : c.count < 2 ^ 29) (d : Drawing)
    (rest : List UInt32) :
    d.command shape (8 * c.count + c.id).toUInt32 (DrawCommand.parameters c.codes ++ rest)
      = (d.perform shape c).map fun d => (d, rest) := by
  rw [command, toNat_integer c h]
  cases c with
  | move codes =>
    have hid : (8 * codes.length + 1) % 8 = 1 := by omega
    have hcount : (8 * codes.length + 1) / 8 = codes.length := by omega
    simp only [DrawCommand.count, DrawCommand.id, DrawCommand.codes, hid, hcount]
    exact vertices_parameters _ _ _ _
  | line codes =>
    have hid : (8 * codes.length + 2) % 8 = 2 := by omega
    have hcount : (8 * codes.length + 2) / 8 = codes.length := by omega
    simp only [DrawCommand.count, DrawCommand.id, DrawCommand.codes, hid, hcount, perform]
    split
    · rfl
    · split
      · rfl
      · exact vertices_parameters _ _ _ _
  | close count =>
    have hid : (8 * count + 7) % 8 = 7 := by omega
    simp only [DrawCommand.count, DrawCommand.id, hid]
    rfl

/-- An integer and codes that are carried out are a command. -/
theorem integers_of_command {integer : UInt32} {s : List UInt32}
    (h : d.command shape integer s = .ok (d', rest)) :
    ∃ c : DrawCommand, c.count < 2 ^ 29 ∧ integer :: s = c.integers ++ rest := by
  have hlt := integer.toNat_lt
  have hself : ∀ n, integer.toNat = n → integer = n.toUInt32 := by
    rintro n rfl
    exact (UInt32.ofNat_toNat).symm
  -- The low three bits of the integer say which command it is, the others how often.
  rw [command] at h
  split at h
  · next hid =>
    obtain ⟨codes, hcount, rfl⟩ := parameters_of_vertices h
    exact ⟨.move codes, by simp only [DrawCommand.count]; omega,
      congrArg (· :: _) (hself _ (by simp only [DrawCommand.count, DrawCommand.id]; omega))⟩
  · next hid =>
    split at h
    · cases h
    · split at h
      · cases h
      · obtain ⟨codes, hcount, rfl⟩ := parameters_of_vertices h
        exact ⟨.line codes, by simp only [DrawCommand.count]; omega,
          congrArg (· :: _) (hself _ (by simp only [DrawCommand.count, DrawCommand.id]; omega))⟩
  · next hid =>
    refine ⟨.close (integer.toNat / 8), by simp only [DrawCommand.count]; omega, ?_⟩
    have hs : s = rest := by
      cases hc : d.close shape with
      | error e =>
        rw [hc] at h
        cases h
      | ok _ =>
        rw [hc] at h
        cases h
        rfl
    rw [hs]
    exact congrArg (· :: _) (hself _ (by simp only [DrawCommand.count, DrawCommand.id]; omega))
  · cases h

/-- A drawing takes the first command, and then the others. -/
theorem run_cons (integer : UInt32) (rest : List UInt32) :
    run shape d (integer :: rest)
      = (d.command shape integer rest).bind fun r => run shape r.1 r.2 := by
  rw [run]
  cases h : d.command shape integer rest <;> rfl

/-- One command in front of a row of integers. -/
theorem run_integers (c : DrawCommand) (h : c.count < 2 ^ 29) (d : Drawing) (rest : List UInt32) :
    run shape d (c.integers ++ rest)
      = (d.perform shape c).bind fun d => run shape d rest := by
  rw [DrawCommand.integers, List.cons_append, run_cons, command_integers c h]
  cases d.perform shape c <;> rfl

/-- Behind the integers of commands, the commands have been carried out. -/
theorem run_append {commands : List DrawCommand} (h : ∀ c ∈ commands, c.count < 2 ^ 29)
    (d : Drawing) (rest : List UInt32) :
    run shape d (commands.flatMap DrawCommand.integers ++ rest)
      = (performAll shape commands d).bind fun d => run shape d rest := by
  induction commands generalizing d with
  | nil => rfl
  | cons c commands ih =>
    obtain ⟨hc, h⟩ := List.forall_mem_cons.1 h
    rw [List.flatMap_cons, List.append_assoc, run_integers c hc, performAll]
    cases d.perform shape c with
    | error e => rfl
    | ok d => exact ih h d

/-- The integers of commands are carried out as the commands. -/
theorem run_flatMap_integers {commands : List DrawCommand} (h : ∀ c ∈ commands, c.count < 2 ^ 29)
    (d : Drawing) :
    run shape d (commands.flatMap DrawCommand.integers) = performAll shape commands d := by
  have happend : run shape d (commands.flatMap DrawCommand.integers ++ [])
      = (performAll shape commands d).bind fun d => run shape d [] := run_append h d []
  rw [List.append_nil] at happend
  rw [happend]
  cases performAll shape commands d with
  | error e => rfl
  | ok d =>
    show run shape d [] = _
    rw [run]

/-- What can be run is a row of commands. -/
theorem splits_of_run {s : List UInt32} (h : run shape d s = .ok d') :
    ∃ commands, Splits s commands := by
  fun_induction run shape d s with
  | case1 => exact ⟨[], by simp, rfl⟩
  | case2 => cases h
  | case3 d integer s d₁ rest hc ih =>
    obtain ⟨c, hcount, hs⟩ := integers_of_command hc
    obtain ⟨commands, hcounts, rfl⟩ := ih h
    refine ⟨c :: commands, ?_, hs.symm⟩
    rintro c' (_ | ⟨_, hc'⟩)
    · exact hcount
    · exact hcounts c' hc'

/-- A row of integers is drawn if it is commands that can be carried out one after the other. -/
theorem run_eq_ok_iff {s : List UInt32} :
    run shape d s = .ok d' ↔
      ∃ commands, Splits s commands ∧ performAll shape commands d = .ok d' := by
  constructor
  · intro h
    obtain ⟨commands, hcounts, rfl⟩ := splits_of_run h
    exact ⟨commands, ⟨hcounts, rfl⟩, (run_flatMap_integers hcounts d).symm.trans h⟩
  · rintro ⟨commands, ⟨hcounts, rfl⟩, h⟩
    exact (run_flatMap_integers hcounts d).trans h

end Integers

end Drawing

end TileScope
