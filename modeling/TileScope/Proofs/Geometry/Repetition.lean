import TileScope.Proofs.Geometry.Encoding

/-!
# Counts

The count of a command says how often it is carried out: a command with a count may be taken apart
into commands of count one (`DrawCommand.singles`), wherever it stands and whatever follows it.

| command | taken apart |
| --- | --- |
| move, line | the same drawing, or the same fault |
| close, count 1 | is one command already |
| close, higher count | cannot be drawn, as the second close finds no open part |

As drawing disregards the count of a close, a close with a higher count is carried out like any
other. So counts repeat just the moves and the lines (`drawGeometry_singles`).
-/

namespace TileScope

/-- A command taken apart into commands of count one. -/
def DrawCommand.singles : DrawCommand → List DrawCommand
  | .move codes => codes.map fun c => .move [c]
  | .line codes => codes.map fun c => .line [c]
  | .close count => List.replicate count (.close 1)

/-- The same geometry is drawn, or none in both cases. -/
def DrawnAlike (drawn other : Except DrawingFault Geometry) : Prop :=
  drawn.toOption = other.toOption

instance (drawn other : Except DrawingFault Geometry) : Decidable (DrawnAlike drawn other) :=
  inferInstanceAs (Decidable (_ = _))

namespace Drawing

variable {shape : Shape} {c : DrawCommand} {d : Drawing}

/-- The commands of one taken apart have the count one. -/
theorem count_singles {single : DrawCommand} (h : single ∈ c.singles) : single.count = 1 := by
  cases c with
  | move codes =>
    obtain ⟨code, -, rfl⟩ := List.mem_map.1 h
    rfl
  | line codes =>
    obtain ⟨code, -, rfl⟩ := List.mem_map.1 h
    rfl
  | close count =>
    obtain rfl := List.eq_of_mem_replicate h
    rfl

/-- One command is carried out by itself. -/
theorem performAll_singleton : performAll shape [c] d = d.perform shape c := by
  rw [performAll]
  cases d.perform shape c <;> rfl

/-- A line with a code finds an open part, or fails before it looks at its codes. -/
theorem performAll_line_singles {codes : List (UInt32 × UInt32)} (hcodes : codes ≠ []) :
    performAll shape (codes.map fun c => .line [c]) d = d.perform shape (.line codes) := by
  by_cases hopen : shape ≠ .point ∧ d.current ≠ []
  · obtain ⟨hshape, hopen⟩ := hopen
    have hlines := performAll_lines hshape (codes.map fun c => [c]) d hopen
    rw [List.map_map, ← List.flatMap_def, List.flatMap_singleton'] at hlines
    rw [perform, if_neg hshape, if_neg (by rwa [List.isEmpty_iff])]
    exact hlines
  · obtain ⟨code, codes, rfl⟩ := List.exists_cons_of_ne_nil hcodes
    rw [List.map_cons, performAll, perform, perform]
    by_cases hshape : shape = .point
    · rw [if_pos hshape, if_pos hshape]
    · have hclosed : d.current.isEmpty = true :=
        List.isEmpty_iff.2 (by_contra fun hne => hopen ⟨hshape, hne⟩)
      rw [if_neg hshape, if_pos hclosed, if_neg hshape, if_pos hclosed]

/-- Moves and lines repeat: taken apart they do the same, or fail in the same way. -/
theorem performAll_singles (hcount : 1 ≤ c.count) (hc : c.isClose = false ∨ c.count = 1) :
    performAll shape c.singles d = performAll shape [c] d := by
  rw [performAll_singleton]
  cases c with
  | move codes =>
    have hmoves : performAll shape ((codes.map fun c => [c]).map .move) d
        = trace (moved shape) (codes.map fun c => [c]).flatten d := performAll_moves _ d
    rw [List.map_map, ← List.flatMap_def, List.flatMap_singleton'] at hmoves
    exact hmoves
  | line codes => exact performAll_line_singles (List.ne_nil_of_length_pos hcount)
  | close count =>
    obtain rfl : count = 1 := hc.resolve_left Bool.noConfusion
    exact performAll_singleton

/-- No part is open behind a close. -/
theorem close_close {d' : Drawing} (h : d.close shape = .ok d') :
    d'.close shape = .error .closeBeforeMove := by
  obtain ⟨⟨hshape, -⟩, -, -⟩ :=
    (perform_eq_ok_iff (c := .close 1)).1 h |>.imp_left fun hfinds => hfinds.resolve_left nofun
  have hclosed : d'.current = [] :=
    not_not.1 fun hopen => (perform_after (c := .close 1) h).2.1 hopen
  rw [close, if_neg hshape, hclosed]
  rfl

/-- A second close has no open part and fails. -/
theorem performAll_closes {n : Nat} (hn : 2 ≤ n) :
    ∃ fault, performAll shape (List.replicate n (.close 1)) d = .error fault := by
  obtain ⟨n, rfl⟩ := Nat.exists_eq_add_of_le' hn
  rw [List.replicate_succ, List.replicate_succ, performAll, perform]
  cases h : d.close shape with
  | error fault => exact ⟨fault, rfl⟩
  | ok d' =>
    refine ⟨.closeBeforeMove, ?_⟩
    show performAll shape _ d' = _
    rw [performAll, perform, close_close h]

end Drawing

open Drawing

section Counts

variable {shape : Shape} {front : List UInt32} {before commands : List DrawCommand}
variable {c : DrawCommand}

/-- Commands in the middle of a row. -/
theorem drawGeometry_middle (hfront : Splits front before) (h : ∀ c ∈ commands, c.count < 2 ^ 29)
    (rest : List UInt32) :
    drawGeometry shape (front ++ commands.flatMap DrawCommand.integers ++ rest)
      = ((performAll shape before {}).bind fun d => (performAll shape commands d).bind fun d =>
          run shape d rest).map (geometry shape) := by
  obtain ⟨hbefore, rfl⟩ := hfront
  rw [drawGeometry, List.append_assoc, run_append hbefore]
  simp only [run_append h]

/-- A command taken apart in the middle of a row is carried out where it stands. -/
theorem drawGeometry_middle_singles (hfront : Splits front before) (c : DrawCommand)
    (rest : List UInt32) :
    drawGeometry shape (front ++ c.singles.flatMap DrawCommand.integers ++ rest)
      = ((performAll shape before {}).bind fun d => (performAll shape c.singles d).bind fun d =>
          run shape d rest).map (geometry shape) :=
  drawGeometry_middle hfront (fun single h => count_singles h ▸ by decide) rest

/-- A move, a line or a single close may be taken apart. -/
theorem drawGeometry_singles_eq (hfront : Splits front before) (hcount : 1 ≤ c.count)
    (hlimit : c.count < 2 ^ 29) (hc : c.isClose = false ∨ c.count = 1) (rest : List UInt32) :
    drawGeometry shape (front ++ c.singles.flatMap DrawCommand.integers ++ rest)
      = drawGeometry shape (front ++ c.integers ++ rest) := by
  have hwhole : drawGeometry shape (front ++ [c].flatMap DrawCommand.integers ++ rest) = _ :=
    drawGeometry_middle hfront (List.forall_mem_singleton.2 hlimit) rest
  rw [List.flatMap_singleton] at hwhole
  rw [hwhole, drawGeometry_middle_singles hfront]
  simp only [performAll_singles hcount hc]

/-- A repeated close draws nothing. -/
theorem drawGeometry_closes (hfront : Splits front before) {n : Nat} (hn : 2 ≤ n)
    (rest : List UInt32) : ∃ fault, drawGeometry shape
      (front ++ (DrawCommand.close n).singles.flatMap DrawCommand.integers ++ rest)
        = .error fault := by
  rw [drawGeometry_middle_singles hfront, DrawCommand.singles]
  cases performAll shape before {} with
  | error fault => exact ⟨fault, rfl⟩
  | ok d =>
    obtain ⟨fault, hfault⟩ :
        ∃ fault, performAll shape (List.replicate n (.close 1)) d = .error fault :=
      performAll_closes hn
    refine ⟨fault, ?_⟩
    show Except.map _ ((performAll shape (List.replicate n (.close 1)) d).bind _) = _
    rw [hfault]
    rfl

/-- **A count repeats a move or a line.** For every shape, every row of commands in front of a
command with a count, and whatever integers follow it: a move, a line or a close of count one can be
taken apart, and the result is the same, down to the fault. A close of a higher count cannot be
drawn when it is taken apart; so taking apart changes what is drawn just for such a close in a row
that is drawn as it stands. -/
theorem drawGeometry_singles (shape : Shape) (hfront : Splits front before) (c : DrawCommand)
    (hcount : 1 ≤ c.count) (hlimit : c.count < 2 ^ 29) (rest : List UInt32) :
    let whole := drawGeometry shape (front ++ c.integers ++ rest)
    let apart := drawGeometry shape (front ++ c.singles.flatMap DrawCommand.integers ++ rest)
    (c.isClose = false ∨ c.count = 1 → apart = whole) ∧
    (c.isClose = true → 2 ≤ c.count → ∃ fault, apart = .error fault) ∧
    (DrawnAlike apart whole ↔ ¬(c.isClose = true ∧ 2 ≤ c.count ∧ ∃ g, whole = .ok g)) := by
  intro whole apart
  have hsame : c.isClose = false ∨ c.count = 1 → apart = whole := fun hc =>
    drawGeometry_singles_eq hfront hcount hlimit hc rest
  have hfails : c.isClose = true → 2 ≤ c.count → ∃ fault, apart = .error fault :=
    fun hc htwice => by
      cases c with
      | move codes => cases hc
      | line codes => cases hc
      | close n => exact drawGeometry_closes hfront htwice rest
  refine ⟨hsame, hfails, fun halike ⟨hc, htwice, g, hg⟩ => ?_, fun hnot => ?_⟩
  · obtain ⟨fault, hfault⟩ := hfails hc htwice
    rw [hfault, hg] at halike
    cases halike
  · by_cases hc : c.isClose = false ∨ c.count = 1
    · exact congrArg Except.toOption (hsame hc)
    · rw [not_or, Bool.not_eq_false] at hc
      have htwice : 2 ≤ c.count := by omega
      obtain ⟨fault, hfault⟩ := hfails hc.1 htwice
      cases hwhole : whole with
      | ok g => exact absurd ⟨hc.1, htwice, g, hwhole⟩ hnot
      | error fault' =>
        rw [hfault]
        rfl

/-- A closed path whose two lines are taken apart; and a close of count two behind a line that finds
no open part. -/
theorem drawGeometry_singles_path :
    drawGeometry .lineString [9, 0, 0, 10, 20, 0, 10, 0, 20, 15]
        = .ok (.lines [[⟨0, 0⟩, ⟨10, 0⟩, ⟨10, 10⟩, ⟨0, 0⟩]]) ∧
      DrawnAlike (drawGeometry .polygon [2, 15, 15]) (drawGeometry .polygon [2, 23]) := by
  have hmove : Splits [9, 0, 0] [.move [(0, 0)]] := by decide
  have hline : Splits [2] [.line []] := by decide
  have hwhole : drawGeometry .lineString [9, 0, 0, 18, 20, 0, 0, 20, 15]
      = .ok (.lines [[⟨0, 0⟩, ⟨10, 0⟩, ⟨10, 10⟩, ⟨0, 0⟩]]) := by cbv
  obtain ⟨hsame, -, -⟩ := drawGeometry_singles .lineString hmove (.line [(20, 0), (0, 20)])
    (by decide) (by decide) [15]
  obtain ⟨-, -, halike⟩ := drawGeometry_singles .polygon hline (.close 2) (by decide) (by decide) []
  have hfault : drawGeometry .polygon [2, 23] = .error .lineBeforeMove := by cbv
  refine ⟨(hsame (.inl rfl)).trans hwhole, halike.2 ?_⟩
  rintro ⟨-, -, g, hg⟩
  rw [show [2] ++ (DrawCommand.close 2).integers ++ [] = [2, 23] from rfl, hfault] at hg
  cases hg

/-- A close with a count is no repeated close: a ring closed once with the count two is drawn, and
closed twice it is not. -/
theorem not_drawnAlike_close_two :
    let front : List UInt32 := [9, 0, 0, 18, 20, 0, 0, 20]
    let close : DrawCommand := .close 2
    Splits front [.move [(0, 0)], .line [(20, 0), (0, 20)]] ∧ 1 ≤ close.count ∧
      drawGeometry .polygon (front ++ close.integers)
        = .ok (.rings [[⟨0, 0⟩, ⟨10, 0⟩, ⟨10, 10⟩, ⟨0, 0⟩]]) ∧
      drawGeometry .polygon (front ++ close.singles.flatMap DrawCommand.integers)
        = .error .closeBeforeMove ∧
      ¬DrawnAlike (drawGeometry .polygon (front ++ close.singles.flatMap DrawCommand.integers))
        (drawGeometry .polygon (front ++ close.integers)) := by
  intro front close
  have hwhole : drawGeometry .polygon (front ++ close.integers)
      = .ok (.rings [[⟨0, 0⟩, ⟨10, 0⟩, ⟨10, 10⟩, ⟨0, 0⟩]]) := by cbv
  have hapart : drawGeometry .polygon (front ++ close.singles.flatMap DrawCommand.integers)
      = .error .closeBeforeMove := by cbv
  refine ⟨by decide, by decide, hwhole, hapart, fun halike => ?_⟩
  rw [hwhole, hapart] at halike
  cases halike

end Counts

end TileScope
