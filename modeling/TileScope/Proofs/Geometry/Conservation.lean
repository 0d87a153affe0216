import TileScope.Proofs.Geometry.Exact
import TileScope.Proofs.Geometry.Reading

/-!
# What a drawing costs and keeps

Every vertex that a drawing reads stands in its geometry, at the end of a part, and nothing else
does but the first vertex of a closed part, which stands there twice.

| command | parts | coordinates |
| --- | --- | --- |
| move | one more for each of its vertices | one more for each |
| line | the last one goes on | one more for each of its vertices |
| close | the last one ends | one more, whatever the count |

So a geometry that is drawn has a part for each vertex of a move and a coordinate for each vertex
and each close, never more coordinates than there were integers, and every integer is read once
(`drawGeometry_conserves`).
-/

namespace TileScope

/-- The parts of a geometry; each of some points is a part. -/
def Geometry.parts : Geometry → List (List Point)
  | points ps => ps.map fun p => [p]
  | lines paths => paths
  | rings paths => paths
  | raw _ => []

/-- The number of parts is that of the parts. -/
theorem Geometry.partCount_eq (g : Geometry) : g.partCount = g.parts.length := by
  cases g <;> simp [partCount, parts]

/-- A row of integers, and the parts and coordinates drawn from it, accounted for by commands. -/
structure Conserved (s : List UInt32) (commands : List DrawCommand) (g : Geometry) : Prop where
  integers : s.length = commands.length + 2 * (commands.flatMap DrawCommand.codes).length
  parts : g.partCount = ((commands.filter DrawCommand.isMove).flatMap DrawCommand.codes).length
  coordinates : g.coordinateCount
    = (commands.flatMap DrawCommand.codes).length + commands.countP DrawCommand.isClose
  bounded : g.coordinateCount ≤ s.length
  filled : ∀ part ∈ g.parts, part ≠ []

/-- Parts with a number of new ones behind them, and a number of vertices more in all; none has
become empty. -/
structure Grown (starts vertices : Nat) (parts parts' : List (List Point)) : Prop where
  count : parts'.length = parts.length + starts
  coordinates : parts'.flatten.length = parts.flatten.length + vertices
  filled : (∀ part ∈ parts, part ≠ []) → ∀ part ∈ parts', part ≠ []

namespace Grown

variable {parts parts' parts'' : List (List Point)} {a b c d : Nat}

/-- Nothing has to be added. -/
theorem refl (parts : List (List Point)) : Grown 0 0 parts parts := ⟨rfl, rfl, id⟩

/-- Vertices added and more added behind them are added together. -/
theorem trans (h : Grown a b parts parts') (h' : Grown c d parts' parts'') :
    Grown (a + c) (b + d) parts parts'' where
  count := by rw [h'.count, h.count, Nat.add_assoc]
  coordinates := by rw [h'.coordinates, h.coordinates, Nat.add_assoc]
  filled := h'.filled ∘ h.filled

/-- A part of one vertex follows. -/
theorem begins (parts : List (List Point)) (vertex : Point) :
    Grown 1 1 parts (parts ++ [[vertex]]) where
  count := List.length_append
  coordinates := by simp
  filled hfilled :=
    List.forall_mem_append.2 ⟨hfilled, List.forall_mem_singleton.2 (List.cons_ne_nil _ _)⟩

/-- The last part goes on with a vertex. -/
theorem goesOn (front : List (List Point)) (last : List Point) (vertex : Point) :
    Grown 0 1 (front ++ [last]) (front ++ [last ++ [vertex]]) where
  count := by simp
  coordinates := by simp [Nat.add_assoc]
  filled hfilled := List.forall_mem_append.2 ⟨(List.forall_mem_append.1 hfilled).1,
    List.forall_mem_singleton.2 (List.append_ne_nil_of_right_ne_nil _ (List.cons_ne_nil _ _))⟩

end Grown

namespace DrawCommand

/-- How many parts a command begins. -/
def starts : DrawCommand → Nat
  | move codes => codes.length
  | _ => 0

/-- How many coordinates a command adds. -/
def added : DrawCommand → Nat
  | close _ => 1
  | c => c.codes.length

/-- Commands begin a part for each vertex of a move. -/
theorem sum_starts (commands : List DrawCommand) :
    (commands.map starts).sum = ((commands.filter isMove).flatMap codes).length := by
  induction commands with
  | nil => rfl
  | cons c commands ih =>
    rw [List.map_cons, List.sum_cons, ih]
    cases c with
    | move codes => rw [List.filter_cons_of_pos rfl, List.flatMap_cons, List.length_append]; rfl
    | line codes => rw [List.filter_cons_of_neg Bool.false_ne_true]; exact Nat.zero_add _
    | close count => rw [List.filter_cons_of_neg Bool.false_ne_true]; exact Nat.zero_add _

/-- Commands add a coordinate for each vertex and one for each close. -/
theorem sum_added (commands : List DrawCommand) :
    (commands.map added).sum = (commands.flatMap codes).length + commands.countP isClose := by
  induction commands with
  | nil => rfl
  | cons c commands ih =>
    rw [List.map_cons, List.sum_cons, ih, List.flatMap_cons, List.length_append, List.countP_cons]
    cases c <;> simp only [added, codes, isClose, List.length_nil, if_true, Bool.false_eq_true,
      if_false] <;> omega

/-- Each vertex is written in two integers. -/
theorem length_parameters (codes : List (UInt32 × UInt32)) :
    (parameters codes).length = 2 * codes.length := by
  simp [parameters, Nat.mul_comm]

/-- Commands are written in an integer each and two for each vertex. -/
theorem length_flatMap_integers (commands : List DrawCommand) :
    (commands.flatMap integers).length
      = commands.length + 2 * (commands.flatMap codes).length := by
  induction commands with
  | nil => rfl
  | cons c commands ih =>
    simp only [List.flatMap_cons, List.length_append, List.length_cons, integers,
      length_parameters, ih]
    omega

end DrawCommand

namespace Drawing

variable {shape : Shape} {d d' : Drawing} {codes : List (UInt32 × UInt32)}

/-! ## Parts of the geometry so far -/

/-- The number of coordinates is that of all parts together. -/
theorem coordinateCount_geometry (shape : Shape) (d : Drawing) :
    (d.geometry shape).coordinateCount = (d.geometry shape).parts.flatten.length := by
  cases shape with
  | point =>
    show d.current.reverse.length = (d.current.reverse.map fun p => [p]).flatten.length
    rw [← List.flatMap_def, List.flatMap_singleton']
  | lineString => rfl
  | polygon => rfl

/-- Lines and rings are drawn as the finished parts and the open one. -/
theorem parts_geometry (hshape : shape ≠ .point) (d : Drawing) :
    (d.geometry shape).parts = d.flush.parts.reverse := by
  cases shape <;> [exact absurd rfl hshape; rfl; rfl]

/-- An open part is finished by a flush. -/
theorem flush_of_open (h : d.current ≠ []) :
    d.flush = { d with parts := d.current.reverse :: d.parts, current := [] } :=
  if_neg (by rwa [List.isEmpty_iff])

/-- Where no part is open a flush does nothing. -/
theorem flush_of_closed (h : d.current = []) : d.flush = d := if_pos (List.isEmpty_iff.2 h)

/-- The open part is drawn as the last one. -/
theorem parts_geometry_of_open (hshape : shape ≠ .point) (h : d.current ≠ []) :
    (d.geometry shape).parts = d.parts.reverse ++ [d.current.reverse] := by
  rw [parts_geometry hshape, flush_of_open h, List.reverse_cons]

/-- The pen is not seen in the geometry. -/
theorem geometry_of_advance {c : UInt32 × UInt32} (h : d.advance c.1 c.2 = .ok d') :
    d'.geometry shape = d.geometry shape := by
  obtain ⟨-, -, rfl⟩ := advance_eq_ok_iff.1 h
  cases shape <;> simp only [geometry, parts_flush_pen]

/-- Moving the pen leaves the open part as it is. -/
theorem current_of_advance {c : UInt32 × UInt32} (h : d.advance c.1 c.2 = .ok d') :
    d'.current = d.current := by
  obtain ⟨-, -, rfl⟩ := advance_eq_ok_iff.1 h
  rfl

/-- A vertex of a move is a new part. -/
theorem grown_moved (shape : Shape) (d : Drawing) :
    Grown 1 1 (d.geometry shape).parts ((moved shape d).geometry shape).parts := by
  have hparts : ((moved shape d).geometry shape).parts
      = (d.geometry shape).parts ++ [[d.pen]] := by
    by_cases hshape : shape = .point
    · subst hshape
      simp [geometry, Geometry.parts, moved, mark]
    · rw [moved_eq hshape, parts_geometry_of_open hshape (List.cons_ne_nil _ _),
        parts_geometry hshape]
      rfl
  rw [hparts]
  exact .begins _ _

/-- A vertex of a line goes on with the last part. -/
theorem grown_mark (hshape : shape ≠ .point) (hopen : d.current ≠ []) :
    Grown 0 1 (d.geometry shape).parts (d.mark.geometry shape).parts := by
  rw [parts_geometry_of_open hshape hopen, parts_geometry_of_open hshape (current_mark d), mark,
    List.reverse_cons]
  exact .goesOn _ _ _

/-- A close adds a coordinate to the last part. -/
theorem grown_close (h : d.close shape = .ok d') :
    Grown 0 1 (d.geometry shape).parts (d'.geometry shape).parts := by
  unfold close at h
  split at h
  · cases h
  · next hshape =>
    split at h
    · cases h
    · next first hfirst =>
      cases h
      have hopen : d.current ≠ [] := fun hclosed => by
        rw [hclosed] at hfirst
        cases hfirst
      rw [parts_geometry_of_open hshape hopen, parts_geometry hshape,
        flush_of_closed (current_flush _), flush_of_open (List.cons_ne_nil _ _),
        List.reverse_cons, List.reverse_cons]
      exact .goesOn _ _ _

/-! ## Commands one after the other -/

/-- The vertices of a move are as many new parts. -/
theorem grown_trace_moved (h : trace (moved shape) codes d = .ok d') :
    Grown codes.length codes.length (d.geometry shape).parts (d'.geometry shape).parts := by
  induction codes generalizing d with
  | nil =>
    cases h
    exact .refl _
  | cons c codes ih =>
    rw [trace] at h
    cases hd : d.advance c.1 c.2 with
    | error e =>
      rw [hd] at h
      cases h
    | ok d₁ =>
      rw [hd] at h
      have hgrown := (grown_moved shape d₁).trans (ih h)
      rw [geometry_of_advance hd] at hgrown
      rwa [List.length_cons, Nat.add_comm]

/-- The vertices of a line go on with the last part. -/
theorem grown_trace_mark (hshape : shape ≠ .point) (hopen : d.current ≠ [])
    (h : trace mark codes d = .ok d') :
    Grown 0 codes.length (d.geometry shape).parts (d'.geometry shape).parts := by
  induction codes generalizing d with
  | nil =>
    cases h
    exact .refl _
  | cons c codes ih =>
    rw [trace] at h
    cases hd : d.advance c.1 c.2 with
    | error e =>
      rw [hd] at h
      cases h
    | ok d₁ =>
      rw [hd] at h
      have hopen₁ : d₁.current ≠ [] := by rwa [current_of_advance hd]
      have hgrown := (grown_mark hshape hopen₁).trans (ih (current_mark d₁) h)
      rw [geometry_of_advance hd] at hgrown
      rwa [List.length_cons, Nat.add_comm]

/-- One command adds its parts and its coordinates. -/
theorem grown_perform {c : DrawCommand} (h : d.perform shape c = .ok d') :
    Grown c.starts c.added (d.geometry shape).parts (d'.geometry shape).parts := by
  obtain ⟨hfinds, -, -⟩ := perform_eq_ok_iff.1 h
  cases c with
  | move codes => exact grown_trace_moved h
  | line codes =>
    obtain ⟨hshape, hopen⟩ := hfinds.resolve_left nofun
    rw [perform, if_neg hshape, if_neg (by rwa [List.isEmpty_iff])] at h
    exact grown_trace_mark hshape hopen h
  | close count => exact grown_close h

/-- Commands carried out one after the other add what each of them adds. -/
theorem grown_performAll {commands : List DrawCommand}
    (h : performAll shape commands d = .ok d') :
    Grown (commands.map DrawCommand.starts).sum (commands.map DrawCommand.added).sum
      (d.geometry shape).parts (d'.geometry shape).parts := by
  induction commands generalizing d with
  | nil =>
    cases h
    exact .refl _
  | cons c commands ih =>
    rw [performAll] at h
    cases hd : d.perform shape c with
    | error e =>
      rw [hd] at h
      cases h
    | ok d₁ =>
      rw [hd] at h
      exact (grown_perform hd).trans (ih h)

/-- Commands carried out from the start account for the whole geometry. -/
theorem conserved_performAll {commands : List DrawCommand}
    (h : performAll shape commands {} = .ok d') :
    Conserved (commands.flatMap DrawCommand.integers) commands (d'.geometry shape) := by
  have hgrown := grown_performAll h
  have hstart : (({} : Drawing).geometry shape).parts = [] := by cases shape <;> rfl
  have hintegers := DrawCommand.length_flatMap_integers commands
  have hcloses := commands.countP_le_length (p := DrawCommand.isClose)
  have hcoordinates : (d'.geometry shape).coordinateCount
      = (commands.flatMap DrawCommand.codes).length + commands.countP DrawCommand.isClose := by
    rw [coordinateCount_geometry, hgrown.coordinates, hstart, DrawCommand.sum_added]
    exact Nat.zero_add _
  refine ⟨hintegers, ?_, hcoordinates, by omega, hgrown.filled fun part hpart => ?_⟩
  · rw [Geometry.partCount_eq, hgrown.count, hstart, DrawCommand.sum_starts]
    exact Nat.zero_add _
  · rw [hstart] at hpart
    cases hpart

end Drawing

open Drawing

/-- **What a drawing costs and keeps.** For every shape and every row of integers, drawn or not: a
reader of the row by places comes to the same end, after a step for each integer and one more at
most, and the places it has looked at are those up to some place, each once and in order. If a
geometry is drawn, the row is read to its end, as commands one after the other; the integers are
one for each command and two for each vertex; there is a part for each vertex of a move, and a
coordinate for each vertex and each close, so no more coordinates than integers; and no part is
empty. -/
theorem drawGeometry_conserves (shape : Shape) (s : List UInt32) :
    ∃ result looks next, Reader.after shape s (s.length + 1) {} = .stopped result looks ∧
      drawGeometry shape s = result.map (geometry shape) ∧ Reader.Covers s looks next ∧
      ∀ g, drawGeometry shape s = .ok g → next = s.length ∧
        ∃ commands, Splits s commands ∧ looks.reverse = Look.ofCommands 0 commands ∧
          Conserved s commands g := by
  have hstart := Reader.covers_start s
  have hsteps : s.length < (0 : Nat) + (s.length + 1) := by omega
  obtain ⟨last, result, looks, hreached, hlast, hafter⟩ :=
    Reader.exists_stopped (r := {}) hsteps hstart
  have hresult : run shape {} s = result := by
    rw [← Reader.outcome_of_stopped hlast, Reader.outcome_of_reached hreached,
      Reader.outcome_of_due_eq_zero rfl, List.drop_zero]
  have hdrawn : drawGeometry shape s = result.map (geometry shape) := by
    rw [drawGeometry, hresult]
  have hcovers := Reader.covers_of_reached hreached hstart
  rcases Reader.stopped_of_step hlast with ⟨-, hend, rfl, rfl⟩ | ⟨e, rfl, -⟩
  · have hnext := hcovers.within.antisymm hend
    refine ⟨_, _, last.next, hafter, hdrawn, hcovers, fun g hg => ⟨hnext, ?_⟩⟩
    obtain ⟨commands, ⟨hcounts, rfl⟩, hperformed⟩ := run_eq_ok_iff.1 hresult
    -- The reader that carries the commands out stops too, so it is the same one.
    obtain ⟨final, hreached', hfinal⟩ :=
      Reader.reached_of_performAll hcounts List.drop_zero hperformed []
    have hafter' := Reader.after_of_reached hreached' hsteps hstart hfinal
    rw [hafter, List.append_nil] at hafter'
    obtain ⟨-, hlooks⟩ := Turn.stopped.inj hafter'
    obtain rfl := Except.ok.inj (hdrawn.symm.trans hg)
    exact ⟨commands, ⟨hcounts, rfl⟩, by rw [hlooks, List.reverse_reverse],
      conserved_performAll hperformed⟩
  · obtain ⟨next, hstopped⟩ := Reader.covers_of_stopped hlast hcovers
    refine ⟨_, _, next, hafter, hdrawn, hstopped, fun g hg => ?_⟩
    rw [hdrawn] at hg
    cases hg

/-- A closed ring and an open one, from five commands and four vertices; and a move with the highest
count, of whose vertices only one is there, so that four steps are enough to find that out. -/
theorem drawGeometry_conserves_rings_move :
    let rings : List UInt32 := [9, 0, 0, 18, 20, 0, 0, 20, 15, 9, 3, 3, 2]
    let g : Geometry := .rings [[⟨0, 0⟩, ⟨10, 0⟩, ⟨10, 10⟩, ⟨0, 0⟩], [⟨8, 8⟩]]
    let move : List UInt32 := [0xfffffff9, 2, 2]
    (drawGeometry .polygon rings = .ok g ∧ ∃ commands, Conserved rings commands g) ∧
      ∃ looks next,
        Reader.after .lineString move 4 {} = .stopped (.error .missingParameters) looks ∧
          Reader.Covers move looks next := by
  intro rings g move
  constructor
  · have hdrawn : drawGeometry .polygon rings = .ok g := by cbv
    obtain ⟨_, _, _, -, -, -, hok⟩ := drawGeometry_conserves .polygon rings
    obtain ⟨-, commands, -, -, hconserved⟩ := hok g hdrawn
    exact ⟨hdrawn, commands, hconserved⟩
  · obtain ⟨result, looks, next, hafter, hdrawn, hcovers, -⟩ :=
      drawGeometry_conserves .lineString move
    have hfault : drawGeometry .lineString move = .error .missingParameters := by cbv
    rw [hfault] at hdrawn
    cases result with
    | ok d => cases hdrawn
    | error e =>
      obtain rfl := Except.error.inj hdrawn
      exact ⟨looks, next, hafter, hcovers⟩

end TileScope
