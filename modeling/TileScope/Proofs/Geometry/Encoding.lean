import TileScope.Proofs.Geometry.Exact

/-!
# Drawing a geometry again

The commands that draw a geometry: points by moves, a path by a move and lines, a ring by its path
without the last vertex and a close. The pen is carried from part to part, and a row of more codes
than a count can hold goes on in another command. The commands draw the geometry they were made
from (`drawGeometry_integers`), if no delta on the way leaves 32 bits.
-/

namespace TileScope

section Pieces

variable {α : Type} {n : Nat} {l : List α}

/-- A list in pieces of `n + 1`; the last one may be shorter. -/
def pieces (n : Nat) : List α → List (List α)
  | [] => []
  | a :: l => (a :: l.take n) :: pieces n (l.drop n)
termination_by l => l.length
decreasing_by
  rw [List.length_drop, List.length_cons]
  omega

/-- The pieces of a list are together the list. -/
theorem flatten_pieces : (pieces n l).flatten = l := by
  fun_induction pieces n l with
  | case1 => rfl
  | case2 a l ih => rw [List.flatten_cons, ih, List.cons_append, List.take_append_drop]

/-- No piece is longer than the size that was asked for. -/
theorem length_le_of_mem_pieces {piece : List α} (h : piece ∈ pieces n l) :
    piece.length ≤ n + 1 := by
  fun_induction pieces n l with
  | case1 => cases h
  | case2 a l ih =>
    rcases h with _ | ⟨_, h⟩
    · rw [List.length_cons, List.length_take]
      omega
    · exact ih h

end Pieces

/-- The largest count of a command. -/
def maxCount : Nat := 2 ^ 29 - 1

/-- The codes that move the pen from a point through others. -/
def codesFrom : Point → List Point → List (UInt32 × UInt32)
  | _, [] => []
  | p, v :: vs =>
    ((zigzagCode (v.x.toInt - p.x.toInt)).toUInt32, (zigzagCode (v.y.toInt - p.y.toInt)).toUInt32)
      :: codesFrom v vs

/-- The commands of a path: a move to its first vertex, and lines through the others. -/
def pathCommands (pen : Point) : List Point → List DrawCommand
  | [] => []
  | v :: vs => .move (codesFrom pen [v]) :: (pieces (maxCount - 1) (codesFrom v vs)).map .line

/-- The commands of paths, from where the pen is. -/
def linesCommands (pen : Point) : List (List Point) → List DrawCommand
  | [] => []
  | path :: paths => pathCommands pen path ++ linesCommands (path.getLastD pen) paths

/-- The commands of rings, from where the pen is. -/
def ringsCommands (pen : Point) : List (List Point) → List DrawCommand
  | [] => []
  | ring :: rings =>
    pathCommands pen ring.dropLast ++ .close 1 :: ringsCommands (ring.dropLast.getLastD pen) rings

namespace Geometry

/-- The commands of a geometry that is drawn. -/
def commands : Geometry → List DrawCommand
  | points ps => (pieces (maxCount - 1) (codesFrom ⟨0, 0⟩ ps)).map .move
  | lines paths => linesCommands ⟨0, 0⟩ paths
  | rings paths => ringsCommands ⟨0, 0⟩ paths
  | raw _ => []

/-- The integers of a geometry. -/
def integers : Geometry → List UInt32
  | raw integers => integers
  | g => g.commands.flatMap DrawCommand.integers

/-- The vertices that the pen goes through. A close does not move it. -/
def penPath : Geometry → List Point
  | points ps => ps
  | lines paths => paths.flatten
  | rings paths => (paths.map List.dropLast).flatten
  | raw _ => []

/-- Paths have a vertex; rings have two, and the last one is the first one again. -/
def HasParts : Geometry → Prop
  | lines paths => ∀ path ∈ paths, path ≠ []
  | rings paths => ∀ ring ∈ paths, 2 ≤ ring.length ∧ ring.getLast? = ring.head?
  | _ => True

end Geometry

/-- The deltas from a point through others fit 32 bits. -/
def DeltasFit : Point → List Point → Prop
  | _, [] => True
  | p, v :: vs => FitsInt32 (v.x.toInt - p.x.toInt) ∧ FitsInt32 (v.y.toInt - p.y.toInt) ∧
      DeltasFit v vs

/-- A geometry that commands can draw. -/
structure Geometry.Encodable (g : Geometry) : Prop where
  hasParts : g.HasParts
  fits : DeltasFit ⟨0, 0⟩ g.penPath

instance decidableDeltasFit : (p : Point) → (vs : List Point) → Decidable (DeltasFit p vs)
  | _, [] => .isTrue trivial
  | _, v :: vs =>
    have := decidableDeltasFit v vs
    inferInstanceAs (Decidable (_ ∧ _ ∧ _))

instance : (g : Geometry) → Decidable g.HasParts
  | .lines paths => inferInstanceAs (Decidable (∀ path ∈ paths, path ≠ []))
  | .rings paths => inferInstanceAs (Decidable (∀ ring ∈ paths, _ ∧ _))
  | .points _ => .isTrue trivial
  | .raw _ => .isTrue trivial

instance (g : Geometry) : Decidable g.Encodable :=
  decidable_of_iff (g.HasParts ∧ DeltasFit ⟨0, 0⟩ g.penPath)
    ⟨fun h => ⟨h.1, h.2⟩, fun h => ⟨h.1, h.2⟩⟩

/-- The differences along a list fit if they do along its front and from there on. -/
theorem deltasFit_append {p : Point} {vs more : List Point} :
    DeltasFit p (vs ++ more) ↔ DeltasFit p vs ∧ DeltasFit (vs.getLastD p) more := by
  induction vs generalizing p with
  | nil => exact ⟨fun h => ⟨trivial, h⟩, fun h => h.2⟩
  | cons v vs ih =>
    rw [List.cons_append, DeltasFit, DeltasFit, ih, List.getLastD_cons]
    simp only [and_assoc]

/-- The code of a delta that fits 32 bits leads from the one number to the other. -/
theorem add_zigzag_code {m n : Int} (h : FitsInt32 (n - m)) :
    m + zigzag (zigzagCode (n - m)).toUInt32.toNat = n := by
  have hlt : zigzagCode (n - m) < 2 ^ 32 := by
    obtain ⟨hlow, hhigh⟩ := h
    unfold zigzagCode
    split <;> omega
  rw [UInt32.toNat_ofNat_of_lt' hlt, zigzag_zigzagCode]
  omega

/-! ## Drawing the commands -/

namespace Drawing

variable {place : Drawing → Drawing} {d : Drawing} {shape : Shape}

/-- The codes of a difference move the pen to the vertex. -/
theorem advance_codes {v : Point} (hx : FitsInt32 (v.x.toInt - d.pen.x.toInt))
    (hy : FitsInt32 (v.y.toInt - d.pen.y.toInt)) :
    d.advance (zigzagCode (v.x.toInt - d.pen.x.toInt)).toUInt32
      (zigzagCode (v.y.toInt - d.pen.y.toInt)).toUInt32 = .ok { d with pen := v } := by
  have hx' : shift? d.pen.x (zigzagCode (v.x.toInt - d.pen.x.toInt)).toUInt32 = some v.x :=
    shift?_eq_some_iff.2 (by simp only [add_zigzag_code hx, fitsInt32_toInt, Int32.ofInt_toInt,
      and_self])
  have hy' : shift? d.pen.y (zigzagCode (v.y.toInt - d.pen.y.toInt)).toUInt32 = some v.y :=
    shift?_eq_some_iff.2 (by simp only [add_zigzag_code hy, fitsInt32_toInt, Int32.ofInt_toInt,
      and_self])
  rw [advance, hx']
  simp only [hy']

/-- The codes of vertices put them in place one after the other. -/
theorem trace_codesFrom (hpen : ∀ d, (place d).pen = d.pen) (vs : List Point)
    (h : DeltasFit d.pen vs) :
    trace place (codesFrom d.pen vs) d
      = .ok (vs.foldl (fun d v => place { d with pen := v }) d) := by
  induction vs generalizing d with
  | nil => rfl
  | cons v vs ih =>
    obtain ⟨hx, hy, h⟩ := h
    rw [codesFrom, trace, advance_codes hx hy, List.foldl_cons]
    have hv : (place { d with pen := v }).pen = v := hpen _
    rw [← ih (by rwa [hv]), hv]

/-- Codes are traced one part after the other. -/
theorem trace_append {codes more : List (UInt32 × UInt32)} :
    trace place (codes ++ more) d = (trace place codes d).bind (trace place more) := by
  induction codes generalizing d with
  | nil => rfl
  | cons c codes ih =>
    rw [List.cons_append, trace, trace]
    cases d.advance c.1 c.2 with
    | error e => rfl
    | ok d => exact ih

/-- Commands are carried out one part after the other. -/
theorem performAll_append {commands more : List DrawCommand} :
    performAll shape (commands ++ more) d
      = (performAll shape commands d).bind (performAll shape more) := by
  induction commands generalizing d with
  | nil => rfl
  | cons c commands ih =>
    rw [List.cons_append, performAll, performAll]
    cases d.perform shape c with
    | error e => rfl
    | ok d => exact ih

/-- Moves draw all of their codes. -/
theorem performAll_moves (codes : List (List (UInt32 × UInt32))) (d : Drawing) :
    performAll shape (codes.map .move) d = trace (moved shape) codes.flatten d := by
  induction codes generalizing d with
  | nil => rfl
  | cons c codes ih =>
    rw [List.map_cons, performAll, List.flatten_cons, trace_append, perform]
    cases trace (moved shape) c d with
    | error e => rfl
    | ok d => exact ih d

/-- Lines draw all of their codes, if a part is open. -/
theorem performAll_lines (hshape : shape ≠ .point) (codes : List (List (UInt32 × UInt32)))
    (d : Drawing) (hopen : d.current ≠ []) :
    performAll shape (codes.map .line) d = trace mark codes.flatten d := by
  induction codes generalizing d with
  | nil => rfl
  | cons c codes ih =>
    rw [List.map_cons, performAll, List.flatten_cons, trace_append, perform, if_neg hshape,
      if_neg (by rwa [List.isEmpty_iff])]
    cases h : trace mark c d with
    | error e => rfl
    | ok d' => exact ih d' ((trace_after pen_mark current_mark h).2.2 (.inr hopen))

/-- Marked vertices go on with the open part, and the pen stops at the last one. -/
theorem foldl_mark (vs : List Point) (d : Drawing) :
    vs.foldl (fun d v => mark { d with pen := v }) d
      = { d with pen := vs.getLastD d.pen, current := vs.reverse ++ d.current } := by
  induction vs generalizing d with
  | nil => rfl
  | cons v vs ih =>
    rw [List.foldl_cons, ih, List.getLastD_cons, List.reverse_cons, List.append_assoc]
    rfl

/-- The commands of a path end the part in front and leave the path open. -/
theorem performAll_pathCommands (hshape : shape ≠ .point) {path : List Point} (hpath : path ≠ [])
    (h : DeltasFit d.pen path) :
    performAll shape (pathCommands d.pen path) d
      = .ok { pen := path.getLastD d.pen, parts := d.flush.parts, current := path.reverse } := by
  cases path with
  | nil => exact absurd rfl hpath
  | cons v vs =>
    obtain ⟨hx, hy, h⟩ := h
    have hmove := trace_codesFrom (pen_moved shape) [v] ⟨hx, hy, trivial⟩
    have hlines := trace_codesFrom pen_mark (d := ⟨v, d.flush.parts, [v]⟩) vs h
    rw [pathCommands, performAll, perform, hmove]
    show performAll shape _ (moved shape { d with pen := v }) = _
    rw [moved_eq hshape, parts_flush_pen, performAll_lines hshape _ _ (List.cons_ne_nil _ _),
      flatten_pieces, hlines, foldl_mark, List.getLastD_cons, List.reverse_cons]

/-- Paths are added one after the other. -/
theorem performAll_linesCommands {paths : List (List Point)} (hpaths : ∀ path ∈ paths, path ≠ [])
    (h : DeltasFit d.pen paths.flatten) :
    ∃ d', performAll .lineString (linesCommands d.pen paths) d = .ok d' ∧
      d'.flush.parts = paths.reverse ++ d.flush.parts := by
  induction paths generalizing d with
  | nil => exact ⟨d, rfl, rfl⟩
  | cons path paths ih =>
    obtain ⟨hpath, hpaths⟩ := List.forall_mem_cons.1 hpaths
    rw [List.flatten_cons, deltasFit_append] at h
    obtain ⟨hfirst, h⟩ := h
    obtain ⟨d', hd', hparts⟩ :=
      ih (d := ⟨path.getLastD d.pen, d.flush.parts, path.reverse⟩) hpaths h
    refine ⟨d', ?_, ?_⟩
    · rw [linesCommands, performAll_append, performAll_pathCommands (by decide) hpath hfirst]
      exact hd'
    · have hflush : Drawing.parts (flush ⟨path.getLastD d.pen, d.flush.parts, path.reverse⟩)
          = path :: d.flush.parts := by
        rw [flush, if_neg (by rwa [List.isEmpty_reverse, List.isEmpty_iff]), List.reverse_reverse]
      rw [hparts, hflush, List.reverse_cons, List.append_assoc, List.singleton_append]

/-- A closed ring begins and ends with one vertex. -/
theorem exists_ring {ring : List Point} (hlength : 2 ≤ ring.length)
    (hlast : ring.getLast? = ring.head?) : ∃ v middle, ring = v :: middle ++ [v] := by
  cases ring with
  | nil => cases hlength
  | cons v vs =>
    have hvs : vs ≠ [] := by
      rintro rfl
      exact absurd hlength (Nat.lt_irrefl 1)
    refine ⟨v, vs.dropLast, ?_⟩
    rw [List.head?_cons, List.getLast?_cons, List.getLast?_eq_some_getLast hvs] at hlast
    have hv : vs.getLast hvs = v := Option.some.inj hlast
    rw [List.cons_append, ← List.dropLast_concat_getLast hvs, List.dropLast_concat, hv]

/-- A ring that was drawn up to its last vertex is closed with the first one. -/
theorem close_ring (pen v : Point) (middle : List Point) (parts : List (List Point)) :
    close .polygon ⟨pen, parts, (v :: middle).reverse⟩
      = .ok ⟨pen, (v :: middle ++ [v]) :: parts, []⟩ := by
  have hfirst : (v :: middle).reverse.getLast? = some v := by
    rw [List.getLast?_reverse, List.head?_cons]
  rw [close, if_neg (by decide)]
  simp only [hfirst]
  rw [flush, if_neg (by simp)]
  show Except.ok (Drawing.mk pen ((v :: (v :: middle).reverse).reverse :: parts) []) = _
  rw [List.reverse_cons, List.reverse_reverse]

/-- Rings are added one after the other, each closed. -/
theorem performAll_ringsCommands {rings : List (List Point)}
    (hrings : ∀ ring ∈ rings, 2 ≤ ring.length ∧ ring.getLast? = ring.head?)
    (hclosed : d.current = []) (h : DeltasFit d.pen (rings.map List.dropLast).flatten) :
    ∃ d', performAll .polygon (ringsCommands d.pen rings) d = .ok d' ∧
      d'.flush.parts = rings.reverse ++ d.parts := by
  induction rings generalizing d with
  | nil =>
    refine ⟨d, rfl, ?_⟩
    rw [flush, if_pos (by rw [hclosed]; rfl)]
    rfl
  | cons ring rings ih =>
    obtain ⟨⟨hlength, hlast⟩, hrest⟩ := List.forall_mem_cons.1 hrings
    rw [List.map_cons, List.flatten_cons, deltasFit_append] at h
    obtain ⟨hfirst, h⟩ := h
    obtain ⟨v, middle, rfl⟩ := exists_ring hlength hlast
    rw [List.dropLast_concat] at hfirst h
    have hflush : d.flush.parts = d.parts := by rw [flush, if_pos (by rw [hclosed]; rfl)]
    have hpath := performAll_pathCommands (by decide : Shape.polygon ≠ .point)
      (List.cons_ne_nil v middle) hfirst
    obtain ⟨d', hd', hparts⟩ :=
      ih (d := ⟨(v :: middle).getLastD d.pen, (v :: middle ++ [v]) :: d.parts, []⟩) hrest rfl h
    refine ⟨d', ?_, ?_⟩
    · rw [ringsCommands, List.dropLast_concat, performAll_append, hpath, hflush]
      show performAll .polygon (.close 1 :: _) _ = _
      rw [performAll, perform, close_ring]
      exact hd'
    · rw [hparts, List.reverse_cons, List.append_assoc, List.singleton_append]

/-- Points are added one after the other. -/
theorem performAll_points {ps : List Point} (h : DeltasFit d.pen ps) :
    ∃ d', performAll .point ((pieces (maxCount - 1) (codesFrom d.pen ps)).map .move) d = .ok d' ∧
      d'.current = ps.reverse ++ d.current := by
  refine ⟨_, by rw [performAll_moves, flatten_pieces, trace_codesFrom (pen_moved _) ps h], ?_⟩
  have hmark := foldl_mark ps d
  exact congrArg Drawing.current hmark

end Drawing

/-! ## Back to the geometry -/

section Integers

/-- The commands of a path have counts within 29 bits. -/
theorem count_pathCommands {pen : Point} {path : List Point} {c : DrawCommand}
    (h : c ∈ pathCommands pen path) : c.count < 2 ^ 29 := by
  cases path with
  | nil => cases h
  | cons v vs =>
    rcases h with _ | ⟨_, h⟩
    · exact (by decide : 1 < 2 ^ 29)
    · obtain ⟨piece, hpiece, rfl⟩ := List.mem_map.1 h
      exact Nat.lt_of_le_of_lt (length_le_of_mem_pieces hpiece) (by decide)

/-- Every count of the commands of a geometry has 29 bits. -/
theorem count_commands (g : Geometry) : ∀ c ∈ g.commands, c.count < 2 ^ 29 := by
  cases g with
  | points ps =>
    intro c h
    obtain ⟨piece, hpiece, rfl⟩ := List.mem_map.1 h
    exact Nat.lt_of_le_of_lt (length_le_of_mem_pieces hpiece) (by decide)
  | lines paths =>
    have go : ∀ pen, ∀ c ∈ linesCommands pen paths, c.count < 2 ^ 29 := by
      induction paths with
      | nil => exact fun pen c h => by cases h
      | cons path paths ih =>
        intro pen c h
        rcases List.mem_append.1 h with h | h
        · exact count_pathCommands h
        · exact ih _ c h
    exact go _
  | rings paths =>
    have go : ∀ pen, ∀ c ∈ ringsCommands pen paths, c.count < 2 ^ 29 := by
      induction paths with
      | nil => exact fun pen c h => by cases h
      | cons ring rings ih =>
        intro pen c h
        rcases List.mem_append.1 h with h | h
        · exact count_pathCommands h
        · rcases h with _ | ⟨_, h⟩
          · exact (by decide : 1 < 2 ^ 29)
          · exact ih _ c h
    exact go _
  | raw integers => exact fun c h => by cases h

/-- The shape that a geometry is drawn into; raw integers are not drawn. -/
def Geometry.shape? : Geometry → Option Shape
  | points _ => some .point
  | lines _ => some .lineString
  | rings _ => some .polygon
  | raw _ => none

/-- The integers of a geometry draw it. -/
theorem drawGeometry_integers {g : Geometry} (h : g.Encodable) {shape : Shape}
    (hshape : g.shape? = some shape) : drawGeometry shape g.integers = .ok g := by
  have hdraw : ∀ d, Drawing.performAll shape g.commands {} = .ok d → d.geometry shape = g →
      drawGeometry shape (g.commands.flatMap DrawCommand.integers) = .ok g := by
    rintro d hd rfl
    rw [drawGeometry, Drawing.run_flatMap_integers (count_commands _), hd]
    rfl
  obtain ⟨hparts, hfits⟩ := h
  cases g with
  | points ps =>
    cases hshape
    obtain ⟨d, hd, hcurrent⟩ := Drawing.performAll_points (d := {}) hfits
    refine hdraw d hd ?_
    rw [Drawing.geometry, hcurrent, List.append_nil, List.reverse_reverse]
    rfl
  | lines paths =>
    cases hshape
    obtain ⟨d, hd, hflush⟩ := Drawing.performAll_linesCommands (d := {}) hparts hfits
    refine hdraw d hd ?_
    rw [Drawing.geometry, hflush]
    exact congrArg Geometry.lines (by simp [Drawing.flush])
  | rings paths =>
    cases hshape
    obtain ⟨d, hd, hflush⟩ := Drawing.performAll_ringsCommands (d := {}) hparts rfl hfits
    refine hdraw d hd ?_
    rw [Drawing.geometry, hflush, List.append_nil, List.reverse_reverse]
  | raw integers => cases hshape

end Integers

end TileScope
