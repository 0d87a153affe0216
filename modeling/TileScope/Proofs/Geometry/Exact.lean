import TileScope.Proofs.Geometry.Grammar
import TileScope.Proofs.InOrder
import TileScope.Tile.Decode

/-!
# Drawing is exact

A drawing that carries out commands draws their strokes (`performAll_eq_ok_iff`), and strokes add
just their parts to a drawing (`parts_draw`). So a geometry is drawn if and only if the integers
are permitted commands whose pen stays in range, and it is the geometry of those commands
(`drawGeometry_exact`).
-/

namespace TileScope

namespace Drawing

/-- Adds a stroke to a drawing; without an open part only the pen is moved. -/
def draw (shape : Shape) (d : Drawing) : Stroke → Drawing
  | .start vertex => moved shape { d with pen := vertex }
  | .extend vertex =>
    if d.current.isEmpty then { d with pen := vertex } else mark { d with pen := vertex }
  | .close =>
    match d.current.getLast? with
    | none => d
    | some first => { d with current := first :: d.current }.flush

section Trace

variable {place : Drawing → Drawing} {d d' : Drawing} {shape : Shape}
variable {codes : List (UInt32 × UInt32)}

/-- A coordinate is moved if the sum fits 32 bits, and to the sum. -/
theorem shift?_eq_some_iff {start moved : Int32} {code : UInt32} :
    shift? start code = some moved ↔
      FitsInt32 (start.toInt + zigzag code.toNat) ∧
        moved = Int32.ofInt (start.toInt + zigzag code.toNat) := by
  unfold shift?
  simp only [← fitsInt32_iff]
  split
  · next h =>
    rw [Option.some.injEq]
    exact ⟨fun e => ⟨h, e.symm⟩, fun e => e.2.symm⟩
  · next h => exact ⟨fun e => (by cases e), fun e => absurd e.1 h⟩

/-- The pen is moved if it stays in range on both axes. -/
theorem advance_eq_ok_iff {c : UInt32 × UInt32} : d.advance c.1 c.2 = .ok d' ↔
    FitsInt32 (d.pen.x.toInt + zigzag c.1.toNat) ∧ FitsInt32 (d.pen.y.toInt + zigzag c.2.toNat) ∧
      d' = { d with pen := d.pen.moved c } := by
  unfold advance
  cases hx : shift? d.pen.x c.1 with
  | none =>
    constructor
    · intro e
      cases e
    · rintro ⟨h, -⟩
      rw [shift?_eq_some_iff.2 ⟨h, rfl⟩] at hx
      cases hx
  | some x =>
    obtain ⟨hfx, rfl⟩ := shift?_eq_some_iff.1 hx
    cases hy : shift? d.pen.y c.2 with
    | none =>
      constructor
      · intro e
        cases e
      · rintro ⟨-, h, -⟩
        rw [shift?_eq_some_iff.2 ⟨h, rfl⟩] at hy
        cases hy
    | some y =>
      obtain ⟨hfy, rfl⟩ := shift?_eq_some_iff.1 hy
      constructor
      · intro e
        exact ⟨hfx, hfy, (Except.ok.inj e).symm⟩
      · rintro ⟨-, -, rfl⟩
        rfl

/-- Vertices are put in place one after the other, as long as the pen stays in range. -/
theorem trace_eq_ok_iff (hpen : ∀ d, (place d).pen = d.pen) :
    trace place codes d = .ok d' ↔
      StaysFrom d.pen codes ∧
        (verticesFrom d.pen codes).foldl (fun d v => place { d with pen := v }) d = d' := by
  induction codes generalizing d with
  | nil => exact ⟨fun e => ⟨staysFrom_nil, Except.ok.inj e⟩, fun h => congrArg _ h.2⟩
  | cons c codes ih =>
    rw [trace, staysFrom_cons]
    cases h : d.advance c.1 c.2 with
    | error e =>
      constructor
      · intro e
        cases e
      · rintro ⟨⟨hx, hy, -⟩, -⟩
        rw [advance_eq_ok_iff.2 ⟨hx, hy, rfl⟩] at h
        cases h
    | ok d₁ =>
      obtain ⟨hx, hy, rfl⟩ := advance_eq_ok_iff.1 h
      show trace place codes _ = _ ↔ _
      rw [ih, hpen, verticesFrom_cons hx hy, List.foldl_cons]
      constructor
      · rintro ⟨h, e⟩
        exact ⟨⟨hx, hy, h⟩, e⟩
      · rintro ⟨⟨-, -, h⟩, e⟩
        exact ⟨h, e⟩

/-- After a trace the pen is where the codes moved it, and a vertex has opened a part. -/
theorem trace_after (hpen : ∀ d, (place d).pen = d.pen) (hopen : ∀ d, (place d).current ≠ [])
    (h : trace place codes d = .ok d') :
    d'.pen = codes.foldl Point.moved d.pen ∧ (d'.current ≠ [] ↔ codes ≠ [] ∨ d.current ≠ []) := by
  induction codes generalizing d with
  | nil =>
    cases h
    exact ⟨rfl, by simp⟩
  | cons c codes ih =>
    rw [trace] at h
    cases hd : d.advance c.1 c.2 with
    | error e =>
      rw [hd] at h
      cases h
    | ok d₁ =>
      obtain ⟨-, -, rfl⟩ := advance_eq_ok_iff.1 hd
      rw [hd] at h
      obtain ⟨hend, hcurrent⟩ := ih h
      refine ⟨by rw [hend, hpen, List.foldl_cons], ?_⟩
      exact ⟨fun _ => .inl (List.cons_ne_nil _ _), fun _ => hcurrent.2 (.inr (hopen _))⟩

/-- A flush leaves the pen where it is. -/
theorem pen_flush (d : Drawing) : d.flush.pen = d.pen := by
  unfold flush
  split <;> rfl

/-- A mark leaves the pen where it is. -/
theorem pen_mark (d : Drawing) : d.mark.pen = d.pen := rfl

/-- Behind a mark a part is open. -/
theorem current_mark (d : Drawing) : d.mark.current ≠ [] := List.cons_ne_nil _ _

/-- The vertex of a move leaves the pen where it is. -/
theorem pen_moved (shape : Shape) (d : Drawing) : (moved shape d).pen = d.pen := by
  cases shape with
  | point => rfl
  | lineString => exact pen_flush d
  | polygon => exact pen_flush d

/-- Behind the vertex of a move a part is open. -/
theorem current_moved (shape : Shape) (d : Drawing) : (moved shape d).current ≠ [] := by
  cases shape <;> exact List.cons_ne_nil _ _

end Trace

/-! ## Commands carried out -/

section Commands

variable {shape : Shape} {d d' : Drawing} {c : DrawCommand} {commands : List DrawCommand}

/-- Vertices that go on with the open part are marked one after the other. -/
theorem foldl_draw_extend {vertices : List Point} (h : d.current ≠ []) :
    (vertices.map Stroke.extend).foldl (draw shape) d
      = vertices.foldl (fun d vertex => mark { d with pen := vertex }) d := by
  induction vertices generalizing d with
  | nil => rfl
  | cons vertex vertices ih =>
    have hdraw : draw shape d (.extend vertex) = mark { d with pen := vertex } :=
      if_neg (by rwa [List.isEmpty_iff])
    rw [List.map_cons, List.foldl_cons, List.foldl_cons, hdraw]
    exact ih (List.cons_ne_nil _ _)

/-- A command is carried out if it is a move or finds an open part, and the pen stays in range. -/
theorem perform_eq_ok_iff : d.perform shape c = .ok d' ↔
    (c.isMove ∨ (shape ≠ .point ∧ d.current ≠ [])) ∧ StaysFrom d.pen c.codes ∧
      (Stroke.ofCommands [c] (verticesFrom d.pen c.codes)).foldl (draw shape) d = d' := by
  cases c with
  | move codes =>
    have htake : (verticesFrom d.pen codes).take codes.length = verticesFrom d.pen codes :=
      List.take_of_length_le (Nat.le_of_eq length_verticesFrom)
    simp only [perform, DrawCommand.codes, DrawCommand.isMove, Stroke.ofCommands, htake, true_or,
      true_and, List.append_nil, List.foldl_map]
    exact trace_eq_ok_iff (pen_moved shape)
  | line codes =>
    have htake : (verticesFrom d.pen codes).take codes.length = verticesFrom d.pen codes :=
      List.take_of_length_le (Nat.le_of_eq length_verticesFrom)
    simp only [perform, DrawCommand.codes, DrawCommand.isMove, Stroke.ofCommands, htake,
      Bool.false_eq_true, false_or, List.append_nil, List.isEmpty_iff]
    by_cases hshape : shape = .point
    · rw [if_pos hshape]
      exact ⟨fun e => (by cases e), fun h => absurd hshape h.1.1⟩
    · by_cases hopen : d.current = []
      · rw [if_neg hshape, if_pos hopen]
        exact ⟨fun e => (by cases e), fun h => absurd hopen h.1.2⟩
      · rw [if_neg hshape, if_neg hopen, trace_eq_ok_iff pen_mark, foldl_draw_extend hopen]
        exact ⟨fun h => ⟨⟨hshape, hopen⟩, h⟩, fun h => h.2⟩
  | close count =>
    simp only [perform, close, DrawCommand.codes, DrawCommand.isMove, Stroke.ofCommands,
      Bool.false_eq_true, false_or, List.foldl_cons, List.foldl_nil, draw, staysFrom_nil, true_and]
    by_cases hshape : shape = .point
    · rw [if_pos hshape]
      exact ⟨fun e => (by cases e), fun h => absurd hshape h.1.1⟩
    · rw [if_neg hshape]
      cases hfirst : d.current.getLast? with
      | none =>
        exact ⟨fun e => (by cases e), fun h => absurd (List.getLast?_eq_none_iff.1 hfirst) h.1.2⟩
      | some first =>
        have hopen : d.current ≠ [] := fun e => by
          rw [e] at hfirst
          cases hfirst
        exact ⟨fun e => ⟨⟨hshape, hopen⟩, Except.ok.inj e⟩, fun h => congrArg _ h.2⟩

/-- Behind a flush no part is open. -/
theorem current_flush (d : Drawing) : d.flush.current = [] := by
  unfold flush
  split
  · next h => exact List.isEmpty_iff.1 h
  · rfl

/-- Behind a command the pen is where its codes lead, and a part is open as the command says. -/
theorem perform_after (h : d.perform shape c = .ok d') :
    d'.pen = c.codes.foldl Point.moved d.pen ∧ (d'.current ≠ [] ↔ c.Opens (d.current ≠ [])) := by
  obtain ⟨hfinds, -, -⟩ := perform_eq_ok_iff.1 h
  cases c with
  | move codes => exact trace_after (pen_moved shape) (current_moved shape) h
  | line codes =>
    rcases hfinds with hmove | ⟨hshape, hopen⟩
    · cases hmove
    · rw [perform, if_neg hshape, if_neg (by rwa [List.isEmpty_iff])] at h
      obtain ⟨hpen, hcurrent⟩ := trace_after pen_mark current_mark h
      exact ⟨hpen, fun _ => hopen, fun _ => hcurrent.2 (.inr hopen)⟩
  | close count =>
    rcases hfinds with hmove | ⟨hshape, hopen⟩
    · cases hmove
    · rw [perform, close, if_neg hshape] at h
      split at h
      · cases h
      · cases h
        exact ⟨pen_flush _, fun e => absurd (current_flush _) e, False.elim⟩

/-- A command takes its own vertices, and the others take those behind. -/
theorem ofCommands_cons {vertices more : List Point} (h : vertices.length = c.codes.length) :
    Stroke.ofCommands (c :: commands) (vertices ++ more)
      = Stroke.ofCommands [c] vertices ++ Stroke.ofCommands commands more := by
  cases c with
  | move codes =>
    simp only [Stroke.ofCommands, DrawCommand.codes] at h ⊢
    rw [← h, List.take_left, List.drop_left, List.take_length, List.append_nil]
  | line codes =>
    simp only [Stroke.ofCommands, DrawCommand.codes] at h ⊢
    rw [← h, List.take_left, List.drop_left, List.take_length, List.append_nil]
  | close count =>
    obtain rfl : vertices = [] := List.eq_nil_of_length_eq_zero h
    rfl

/-- Commands are carried out if they are permitted and the pen stays in range; then their strokes
are drawn. -/
theorem performAll_eq_ok_iff : performAll shape commands d = .ok d' ↔
    PermittedFrom shape (d.current ≠ []) commands ∧
      StaysFrom d.pen (commands.flatMap DrawCommand.codes) ∧
      (Stroke.ofCommands commands (verticesFrom d.pen (commands.flatMap DrawCommand.codes))).foldl
        (draw shape) d = d' := by
  induction commands generalizing d with
  | nil => exact ⟨fun e => ⟨trivial, staysFrom_nil, Except.ok.inj e⟩, fun h => congrArg _ h.2.2⟩
  | cons c commands ih =>
    rw [performAll, PermittedFrom, List.flatMap_cons, staysFrom_append]
    cases h : d.perform shape c with
    | error e =>
      constructor
      · intro e
        cases e
      · rintro ⟨⟨hc, -⟩, ⟨hstays, -⟩, -⟩
        rw [perform_eq_ok_iff.2 ⟨hc, hstays, rfl⟩] at h
        cases h
    | ok d₁ =>
      obtain ⟨hc, hstays, hdraw⟩ := perform_eq_ok_iff.1 h
      obtain ⟨hpen, hcurrent⟩ := perform_after h
      show performAll shape commands d₁ = _ ↔ _
      rw [ih, verticesFrom_append hstays, ofCommands_cons length_verticesFrom, List.foldl_append,
        hdraw, hpen, propext hcurrent]
      constructor
      · rintro ⟨h, h', e⟩
        exact ⟨⟨hc, h⟩, ⟨hstays, h'⟩, e⟩
      · rintro ⟨⟨-, h⟩, ⟨-, h'⟩, e⟩
        exact ⟨h, h', e⟩

end Commands

/-! ## Parts -/

section Parts

variable {shape : Shape} {d : Drawing}

/-- The open part of a drawing, gone on with by strokes. -/
def openPart (current : List Point) (strokes : List Stroke) : List (List Point) :=
  match current.getLast? with
  | none => []
  | some first => [current.reverse ++ Stroke.continued first strokes]

/-- A flush finishes the open part behind the others. -/
theorem parts_flush (d : Drawing) :
    d.flush.parts.reverse = d.parts.reverse ++ openPart d.current [] := by
  unfold flush openPart
  cases hfirst : d.current.getLast? with
  | none => rw [List.getLast?_eq_none_iff.1 hfirst, List.isEmpty_nil, if_pos rfl, List.append_nil]
  | some first =>
    have hopen : ¬ d.current.isEmpty = true := fun e => by
      rw [List.isEmpty_iff.1 e] at hfirst
      cases hfirst
    simp only [if_neg hopen, List.reverse_cons, Stroke.continued_nil, List.append_nil]

/-- What a flush finishes does not depend on the pen. -/
theorem parts_flush_pen (d : Drawing) (p : Point) :
    Drawing.parts (flush { d with pen := p }) = d.flush.parts := by
  unfold flush
  split <;> rfl

/-- The vertex of a move finishes the open part and begins one. -/
theorem moved_eq (hshape : shape ≠ .point) (d : Drawing) :
    moved shape d = { pen := d.pen, parts := d.flush.parts, current := [d.pen] } := by
  have hmark : d.flush.mark = { pen := d.pen, parts := d.flush.parts, current := [d.pen] } := by
    rw [mark, pen_flush, current_flush]
  cases shape with
  | point => exact absurd rfl hshape
  | lineString => exact hmark
  | polygon => exact hmark

/-- What strokes add to a drawing: they go on with its open part, and the parts they begin
follow. -/
theorem parts_draw (hshape : shape ≠ .point) (strokes : List Stroke) (d : Drawing) :
    (strokes.foldl (draw shape) d).flush.parts.reverse
      = d.parts.reverse ++ openPart d.current strokes ++ Stroke.parts strokes := by
  -- A stroke finishes the open part or goes on with it, so that part goes along in the induction.
  induction strokes generalizing d with
  | nil => rw [List.foldl_nil, parts_flush, Stroke.parts, List.append_nil]
  | cons stroke strokes ih =>
    rw [List.foldl_cons, ih]
    cases stroke with
    | start vertex =>
      have hdraw : draw shape d (.start vertex)
          = { pen := vertex, parts := d.flush.parts, current := [vertex] } := by
        rw [draw, moved_eq hshape, parts_flush_pen]
      have hopen : openPart d.current (.start vertex :: strokes) = openPart d.current [] := rfl
      rw [hdraw, parts_flush, hopen, Stroke.parts, List.append_assoc _ _ (Stroke.parts strokes)]
      rfl
    | extend vertex =>
      cases hfirst : d.current.getLast? with
      | none =>
        have hcurrent := List.getLast?_eq_none_iff.1 hfirst
        have hdraw : draw shape d (.extend vertex) = { d with pen := vertex } :=
          if_pos (List.isEmpty_iff.2 hcurrent)
        rw [hdraw, hcurrent]
        rfl
      | some first =>
        have hcurrent : d.current ≠ [] := fun e => by
          rw [e] at hfirst
          cases hfirst
        have hdraw : draw shape d (.extend vertex)
            = { d with pen := vertex, current := vertex :: d.current } :=
          if_neg (by rwa [List.isEmpty_iff])
        have hlast : (vertex :: d.current).getLast? = some first := by
          rw [List.getLast?_cons, hfirst, Option.getD_some]
        simp only [hdraw, openPart, hlast, hfirst, Stroke.continued_extend, Stroke.parts,
          List.reverse_cons, List.append_assoc, List.cons_append, List.nil_append]
    | close =>
      cases hfirst : d.current.getLast? with
      | none =>
        have hdraw : draw shape d .close = d := by simp only [draw, hfirst]
        simp only [hdraw, openPart, hfirst, Stroke.parts]
      | some first =>
        have hdraw : draw shape d .close
            = { d with parts := (first :: d.current).reverse :: d.parts, current := [] } := by
          simp only [draw, hfirst]
          rfl
        simp only [hdraw, openPart, hfirst, Stroke.continued_close, Stroke.parts,
          List.reverse_cons, List.getLast?_nil, List.append_nil]

/-- The starts of points add them to the one part. -/
theorem points_draw {strokes : List Stroke} {vertices : List Point}
    (h : strokes = vertices.map .start) (d : Drawing) :
    (strokes.foldl (draw .point) d).current.reverse = d.current.reverse ++ vertices := by
  subst h
  induction vertices generalizing d with
  | nil => rw [List.map_nil, List.foldl_nil, List.append_nil]
  | cons vertex vertices ih =>
    rw [List.map_cons, List.foldl_cons, ih]
    show (vertex :: d.current).reverse ++ vertices = _
    rw [List.reverse_cons, List.append_assoc, List.singleton_append]

/-- For points every vertex is the beginning of a part. -/
theorem ofCommands_point {commands : List DrawCommand} {vertices : List Point} {o : Prop}
    (h : PermittedFrom .point o commands)
    (hlen : vertices.length = (commands.flatMap DrawCommand.codes).length) :
    Stroke.ofCommands commands vertices = vertices.map .start := by
  induction commands generalizing vertices o with
  | nil =>
    obtain rfl : vertices = [] := List.eq_nil_of_length_eq_zero hlen
    rfl
  | cons c commands ih =>
    obtain ⟨hc, h⟩ := h
    rcases hc with hmove | ⟨hshape, -⟩
    · cases c with
      | move codes =>
        rw [List.flatMap_cons, List.length_append] at hlen
        have hdrop : (vertices.drop codes.length).length
            = (commands.flatMap DrawCommand.codes).length := by
          rw [List.length_drop, hlen]
          exact Nat.add_sub_cancel_left _ _
        rw [Stroke.ofCommands, ih h hdrop, ← List.map_append, List.take_append_drop]
      | line codes => cases hmove
      | close count => cases hmove
    · exact absurd rfl hshape

end Parts

end Drawing

/-! ## Exactness -/

section Exact

variable {shape : Shape} {commands : List DrawCommand}

/-- To stay in range all the way is to do so step by step from the origin. -/
theorem staysInRange_iff {codes : List (UInt32 × UInt32)} :
    StaysInRange codes ↔ StaysFrom ⟨0, 0⟩ codes := by
  unfold StaysInRange StaysFrom
  simp only [Int32.toInt_zero, Int.zero_add]

/-- The vertices of a list of codes are those reached step by step from the origin. -/
theorem vertexList_eq (codes : List (UInt32 × UInt32)) :
    vertexList codes = verticesFrom ⟨0, 0⟩ codes := by
  unfold vertexList verticesFrom
  simp only [Int32.toInt_zero, Int.zero_add]

/-- What commands draw is the geometry that their strokes make up. -/
theorem geometry_performAll {d : Drawing} (h : Drawing.performAll shape commands {} = .ok d) :
    d.geometry shape = drawnGeometry shape commands := by
  obtain ⟨hpermitted, -, rfl⟩ := Drawing.performAll_eq_ok_iff.1 h
  unfold drawnGeometry
  rw [vertexList_eq]
  cases shape with
  | point =>
    exact congrArg Geometry.points
      (Drawing.points_draw (Drawing.ofCommands_point hpermitted length_verticesFrom) {})
  | lineString => exact congrArg Geometry.lines (Drawing.parts_draw (by decide) _ {})
  | polygon => exact congrArg Geometry.rings (Drawing.parts_draw (by decide) _ {})

/-- A geometry is drawn just if the integers are permitted commands whose pen stays in range. -/
theorem drawGeometry_eq_ok_iff {s : List UInt32} {g : Geometry} : drawGeometry shape s = .ok g ↔
    ∃ commands, Drawable shape s commands ∧ g = drawnGeometry shape commands := by
  have hclosed : (({} : Drawing).current ≠ []) = False := eq_false fun h => h rfl
  constructor
  · intro h
    rw [drawGeometry] at h
    cases hd : Drawing.run shape {} s with
    | error e =>
      rw [hd] at h
      cases h
    | ok d =>
      rw [hd] at h
      cases h
      obtain ⟨commands, hsplits, hperform⟩ := Drawing.run_eq_ok_iff.1 hd
      obtain ⟨hpermitted, hstays, -⟩ := Drawing.performAll_eq_ok_iff.1 hperform
      rw [hclosed] at hpermitted
      exact ⟨commands, ⟨hsplits, permitted_iff.2 hpermitted, staysInRange_iff.2 hstays⟩,
        geometry_performAll hperform⟩
  · rintro ⟨commands, ⟨hsplits, hpermitted, hstays⟩, rfl⟩
    have hpermitted' : PermittedFrom shape (({} : Drawing).current ≠ []) commands := by
      rw [hclosed]
      exact permitted_iff.1 hpermitted
    have hperform := Drawing.performAll_eq_ok_iff.2
      ⟨hpermitted', staysInRange_iff.1 hstays, rfl⟩
    rw [drawGeometry, Drawing.run_eq_ok_iff.2 ⟨commands, hsplits, hperform⟩]
    exact congrArg Except.ok (geometry_performAll hperform)

/-- As long as the pen stays in range a vertex is the sum of the differences up to it. -/
theorem getElem_vertexList {codes : List (UInt32 × UInt32)} (h : StaysInRange codes) (i : Nat)
    (hi : i < (vertexList codes).length) :
    (vertexList codes)[i].x.toInt = reach Prod.fst codes (i + 1) ∧
      (vertexList codes)[i].y.toInt = reach Prod.snd codes (i + 1) := by
  have hcodes : i < codes.length := by
    rwa [vertexList, List.length_map, List.length_range] at hi
  obtain ⟨hx, hy⟩ := h (i + 1) hcodes
  simp only [vertexList, List.getElem_map, List.getElem_range]
  exact ⟨hx.toInt_ofInt, hy.toInt_ofInt⟩

/-- A malformed feature makes its layer malformed, if none in front of it is. -/
theorem decode_eq_error {layer : LayerMessage} {f : FeatureMessage}
    {before after : List FeatureMessage} {flaw : Flaw}
    (hversion : layer.version = 1 ∨ layer.version = 2)
    (hfeatures : layer.features.toList = before ++ f :: after)
    (hbefore : ∀ g ∈ before, ∃ r, layer.feature g = .ok r) (hf : layer.feature f = .error flaw) :
    layer.decode = .error (.malformed flaw) := by
  rw [LayerMessage.decode, if_pos hversion, hfeatures, mapM_eq_error hbefore hf]

/-- A geometry that cannot be drawn makes its feature malformed, and its layer with it. -/
theorem decode_eq_malformed {layer : LayerMessage} {f : FeatureMessage}
    {before after : List FeatureMessage} {fault : DrawingFault}
    (hversion : layer.version = 1 ∨ layer.version = 2)
    (hfeatures : layer.features.toList = before ++ f :: after)
    (hbefore : ∀ g ∈ before, ∃ r, layer.feature g = .ok r) (hshape : f.shape? = some shape)
    (hfault : drawGeometry shape f.geometry.toList = .error fault) :
    layer.decode = .error (.malformed (.geometry fault layer.name)) := by
  have hfeature : layer.feature f = .error (.geometry fault layer.name) := by
    rw [LayerMessage.feature, hshape]
    simp only [hfault]
    rfl
  exact decode_eq_error hversion hfeatures hbefore hfeature

/-- **Drawing is exact.** A geometry is drawn if and only if the integers are commands with
nothing left over, each line and close finds an open part, and no sum of deltas leaves 32 bits; it
is then the geometry of those commands, with every vertex at the unbounded sums. Otherwise any
layer with such a feature is malformed, unless a feature in front of it already is. -/
theorem drawGeometry_exact (shape : Shape) (s : List UInt32) :
    (∀ g, drawGeometry shape s = .ok g ↔
      ∃ commands, Drawable shape s commands ∧ g = drawnGeometry shape commands) ∧
    (∀ commands, Drawable shape s commands →
      ∀ i (h : i < (vertexList (commands.flatMap DrawCommand.codes)).length),
        (vertexList (commands.flatMap DrawCommand.codes))[i].x.toInt
            = reach Prod.fst (commands.flatMap DrawCommand.codes) (i + 1) ∧
          (vertexList (commands.flatMap DrawCommand.codes))[i].y.toInt
            = reach Prod.snd (commands.flatMap DrawCommand.codes) (i + 1)) ∧
    ((∀ commands, ¬ Drawable shape s commands) →
      ∃ fault, drawGeometry shape s = .error fault ∧
        ∀ (layer : LayerMessage) (before : List FeatureMessage) (f : FeatureMessage) (after),
          layer.version = 1 ∨ layer.version = 2 →
          layer.features.toList = before ++ f :: after →
          (∀ g ∈ before, ∃ r, layer.feature g = .ok r) →
          f.shape? = some shape → f.geometry.toList = s →
          layer.decode = .error (.malformed (.geometry fault layer.name))) := by
  refine ⟨fun g => drawGeometry_eq_ok_iff,
    fun commands h i hi => getElem_vertexList h.stays i hi, fun hnone => ?_⟩
  cases h : drawGeometry shape s with
  | ok g =>
    obtain ⟨commands, hdrawable, -⟩ := drawGeometry_eq_ok_iff.1 h
    exact absurd hdrawable (hnone commands)
  | error fault =>
    refine ⟨fault, rfl, fun layer before f after hversion hfeatures hbefore hshape hs => ?_⟩
    subst hs
    exact decode_eq_malformed hversion hfeatures hbefore hshape h

/-- Two rings, the second from where the pen stood before the first was closed; and a layer with a
line in front of every move. -/
theorem drawGeometry_exact_rings_line :
    drawGeometry .polygon [9, 0, 0, 18, 20, 0, 0, 20, 15, 1, 9, 3, 3, 10, 4, 0, 2, 7]
        = .ok (.rings [[⟨0, 0⟩, ⟨10, 0⟩, ⟨10, 10⟩, ⟨0, 0⟩], [⟨8, 8⟩, ⟨10, 8⟩, ⟨8, 8⟩]]) ∧
      LayerMessage.decode { name := "a", features := #[{ kind := some 2, geometry := #[2] }] }
        = .error (.malformed (.geometry .lineBeforeMove "a")) := by
  constructor
  · refine ((drawGeometry_exact .polygon _).1 _).2 ⟨[.move [(0, 0)], .line [(20, 0), (0, 20)],
      .close 1, .move [], .move [(3, 3)], .line [(4, 0)], .line [], .close 0],
      ⟨by decide, permitted_iff.2 ?_, by decide⟩, by decide⟩
    simp [PermittedFrom, DrawCommand.isMove, DrawCommand.Opens]
  · have hfault : drawGeometry .lineString [2] = .error .lineBeforeMove := by cbv
    have hnone : ∀ commands, ¬ Drawable .lineString [2] commands := by
      intro commands h
      have hok := ((drawGeometry_exact .lineString [2]).1 _).2 ⟨commands, h, rfl⟩
      rw [hfault] at hok
      cases hok
    obtain ⟨fault, hfault', hlayer⟩ := (drawGeometry_exact .lineString [2]).2.2 hnone
    obtain rfl : DrawingFault.lineBeforeMove = fault := Except.error.inj (hfault.symm.trans hfault')
    exact hlayer _ [] _ [] (.inl rfl) rfl (fun g hg => by cases hg) rfl rfl

end Exact

end TileScope
