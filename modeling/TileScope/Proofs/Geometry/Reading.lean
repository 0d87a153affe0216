import TileScope.Proofs.Geometry.Command

/-!
# Reading by places

A drawing takes its integers from the front of a row and hands on the rest. A reader has the row
before it all the time and looks at it by places; it keeps a list of its looks. It comes to the same
end (`Reader.outcome_of_reached`, `Reader.outcome_of_stopped`), and the list says what the integers
cost: each step moves on by the places it looked at (`Reader.Covers`), so no integer is read twice,
and there is a step for each integer and one more at most, however high the counts in the commands
are (`Reader.exists_stopped`).

| step | looks at |
| --- | --- |
| no vertex is due | the command at the next place, if there is one |
| a vertex is due | the two codes from the next place on, if both are there |
-/

namespace TileScope

/-- One look at a row of integers. -/
inductive Look where
  /-- At a command, which has a number. -/
  | command (place number : Nat)
  /-- At the two codes of a vertex; `starts` says whether a move asked for it. -/
  | vertex (place : Nat) (starts : Bool)
deriving DecidableEq, Repr

namespace Look

/-- The places that a look reads. -/
def places : Look → List Nat
  | command place _ => [place]
  | vertex place _ => [place, place + 1]

/-- What the look reports is there. -/
def Sees (s : List UInt32) : Look → Prop
  | command place number => ∃ integer, s[place]? = some integer ∧ integer.toNat % 8 = number
  | vertex place _ => place + 1 < s.length

/-- Looks at the codes of vertices, from a place on. -/
def ofVertices (starts : Bool) : (place count : Nat) → List Look
  | _, 0 => []
  | place, count + 1 => vertex place starts :: ofVertices starts (place + 2) count

/-- Looks at a command, which stands at a place, and then at its vertices. -/
def ofCommand (place : Nat) (c : DrawCommand) : List Look :=
  command place c.id :: ofVertices c.isMove (place + 1) c.codes.length

/-- Looks at commands one after the other, from a place on. -/
def ofCommands : (place : Nat) → List DrawCommand → List Look
  | _, [] => []
  | place, c :: commands =>
    ofCommand place c ++ ofCommands (place + 1 + 2 * c.codes.length) commands

end Look

namespace Drawing

/-- What a command does before its codes are read: the drawing after it, how many vertices are due,
and whether they are those of a move. -/
def begin (shape : Shape) (d : Drawing) (integer : UInt32) :
    Except DrawingFault (Drawing × Nat × Bool) :=
  match integer.toNat % 8 with
  | 1 => .ok (d, integer.toNat / 8, true)
  | 2 =>
    if shape = .point then .error .lineInPoints
    else if d.current.isEmpty then .error .lineBeforeMove
    else .ok (d, integer.toNat / 8, false)
  | 7 => (d.close shape).map fun d => (d, 0, false)
  | id => .error (.unknownCommand id)

/-- What a vertex does, of a move or of a line. -/
def placing (shape : Shape) (moving : Bool) : Drawing → Drawing :=
  if moving then moved shape else mark

/-- A command is begun, and then its vertices are read. -/
theorem command_eq_begin (shape : Shape) (d : Drawing) (integer : UInt32) (rest : List UInt32) :
    d.command shape integer rest
      = (d.begin shape integer).bind fun b => vertices (placing shape b.2.2) b.2.1 b.1 rest := by
  have hlt : integer.toNat % 8 < 8 := Nat.mod_lt _ (by decide)
  unfold command begin
  generalize integer.toNat % 8 = number at hlt ⊢
  match number, hlt with
  | 0, _ | 1, _ | 3, _ | 4, _ | 5, _ | 6, _ => rfl
  | 2, _ =>
    dsimp only
    by_cases hshape : shape = .point
    · rw [if_pos hshape, if_pos hshape]
      rfl
    · rw [if_neg hshape, if_neg hshape]
      cases d.current.isEmpty <;> rfl
  | 7, _ => cases d.close shape <;> rfl
  | n + 8, h => omega

end Drawing

open Drawing

/-- A drawing under way that is read by places. -/
structure Reader where
  drawing : Drawing := {}
  /-- The place to look at next. -/
  next : Nat := 0
  /-- How many vertices the last command still asks for, -/
  due : Nat := 0
  /-- and whether it is a move. -/
  moving : Bool := false
  /-- The looks so far, last one first. -/
  looks : List Look := []

/-- What a step leads to. -/
inductive Turn where
  | onward (r : Reader)
  | stopped (result : Except DrawingFault Drawing) (looks : List Look)

namespace Reader

/-- Reads a command, or the codes of a vertex if one is due. -/
def step (shape : Shape) (s : List UInt32) (r : Reader) : Turn :=
  match r.due with
  | 0 =>
    match s[r.next]? with
    | none => .stopped (.ok r.drawing) r.looks
    | some integer =>
      let looks := .command r.next (integer.toNat % 8) :: r.looks
      match r.drawing.begin shape integer with
      | .error e => .stopped (.error e) looks
      | .ok (d, due, moving) => .onward ⟨d, r.next + 1, due, moving, looks⟩
  | due + 1 =>
    if h : r.next + 1 < s.length then
      let looks := .vertex r.next r.moving :: r.looks
      match r.drawing.advance s[r.next] s[r.next + 1] with
      | .error e => .stopped (.error e) looks
      | .ok d => .onward ⟨placing shape r.moving d, r.next + 2, due, r.moving, looks⟩
    else .stopped (.error .missingParameters) r.looks

/-- Takes steps, as many as are given and possible. -/
def after (shape : Shape) (s : List UInt32) : Nat → Reader → Turn
  | 0, r => .onward r
  | n + 1, r =>
    match r.step shape s with
    | .onward r => after shape s n r
    | .stopped result looks => .stopped result looks

/-- What comes of a reader: the vertices that are due are read, then the rest is drawn. -/
def outcome (shape : Shape) (s : List UInt32) (r : Reader) : Except DrawingFault Drawing :=
  (vertices (placing shape r.moving) r.due r.drawing (s.drop r.next)).bind fun d =>
    run shape d.1 d.2

/-- A step that goes on reads a command and begins it, or reads a vertex and places it. -/
inductive Advances (shape : Shape) (s : List UInt32) (r : Reader) : Reader → Prop where
  | command (integer : UInt32) (d : Drawing) (due : Nat) (moving : Bool) (hdue : r.due = 0)
      (hread : s[r.next]? = some integer)
      (hbegin : r.drawing.begin shape integer = .ok (d, due, moving)) :
      Advances shape s r
        ⟨d, r.next + 1, due, moving, .command r.next (integer.toNat % 8) :: r.looks⟩
  | vertex (due : Nat) (d : Drawing) (hdue : r.due = due + 1) (hread : r.next + 1 < s.length)
      (hmoved : r.drawing.advance s[r.next] s[r.next + 1] = .ok d) :
      Advances shape s r
        ⟨placing shape r.moving d, r.next + 2, due, r.moving, .vertex r.next r.moving :: r.looks⟩

/-- The integers in front of a place have been read, each once and in order. -/
structure Covers (s : List UInt32) (looks : List Look) (next : Nat) : Prop where
  within : next ≤ s.length
  inOrder : looks.reverse.flatMap Look.places = List.range next
  sees : ∀ look ∈ looks, look.Sees s

section Steps

variable {shape : Shape} {s : List UInt32} {r r' : Reader}
variable {result : Except DrawingFault Drawing} {looks : List Look}

/-- A step that goes on is one of the two advances. -/
theorem advances_of_step (h : r.step shape s = .onward r') : Advances shape s r r' := by
  unfold step at h
  split at h
  · next hdue =>
    split at h
    · cases h
    · next integer hread =>
      dsimp only at h
      split at h
      · cases h
      · next d due moving hbegin =>
        cases h
        exact .command integer d due moving hdue hread hbegin
  · next due hdue =>
    split at h
    · next hread =>
      dsimp only at h
      split at h
      · cases h
      · next d hmoved =>
        cases h
        exact .vertex due d hdue hread hmoved
    · cases h

/-- A step that stops has come to the end, or has found a fault: in what it looked at, or in there
being nothing to look at. -/
theorem stopped_of_step (h : r.step shape s = .stopped result looks) :
    (r.due = 0 ∧ s.length ≤ r.next ∧ result = .ok r.drawing ∧ looks = r.looks) ∨
      ∃ e, result = .error e ∧
        (looks = r.looks ∨ ∃ look : Look, looks = look :: r.looks ∧ look.Sees s ∧
          look.places = List.range' r.next look.places.length) := by
  unfold step at h
  split at h
  · next hdue =>
    split at h
    · next hread =>
      cases h
      exact .inl ⟨hdue, List.getElem?_eq_none_iff.1 hread, rfl, rfl⟩
    · next integer hread =>
      dsimp only at h
      split at h
      · next e _ =>
        cases h
        exact .inr ⟨e, rfl, .inr ⟨_, rfl, ⟨integer, hread, rfl⟩, rfl⟩⟩
      · cases h
  · split at h
    · next hread =>
      dsimp only at h
      split at h
      · next e _ =>
        cases h
        exact .inr ⟨e, rfl, .inr ⟨_, rfl, hread, rfl⟩⟩
      · cases h
    · cases h
      exact .inr ⟨.missingParameters, rfl, .inl rfl⟩

/-! ## The same drawing -/

/-- If no vertex is due the rest is drawn. -/
theorem outcome_of_due_eq_zero (h : r.due = 0) :
    r.outcome shape s = run shape r.drawing (s.drop r.next) := by
  rw [outcome, h, vertices]
  rfl

/-- An integer where no vertex is due begins a command. -/
theorem outcome_of_read {integer : UInt32} (hdue : r.due = 0)
    (hread : s[r.next]? = some integer) :
    r.outcome shape s = (r.drawing.begin shape integer).bind fun b =>
      (vertices (placing shape b.2.2) b.2.1 b.1 (s.drop (r.next + 1))).bind fun d =>
        run shape d.1 d.2 := by
  obtain ⟨hlt, rfl⟩ := List.getElem?_eq_some_iff.1 hread
  rw [outcome_of_due_eq_zero hdue, List.drop_eq_getElem_cons hlt, run_cons, command_eq_begin]
  cases r.drawing.begin shape s[r.next] <;> rfl

/-- A vertex that is due is placed, and the others follow. -/
theorem outcome_of_pair {due : Nat} (hdue : r.due = due + 1) (hread : r.next + 1 < s.length) :
    r.outcome shape s = (r.drawing.advance s[r.next] s[r.next + 1]).bind fun d =>
      (vertices (placing shape r.moving) due (placing shape r.moving d)
        (s.drop (r.next + 2))).bind fun d => run shape d.1 d.2 := by
  rw [outcome, hdue, List.drop_eq_getElem_cons (Nat.lt_of_succ_lt hread),
    List.drop_eq_getElem_cons hread, vertices]
  cases r.drawing.advance s[r.next] s[r.next + 1] <;> rfl

/-- A vertex without its pair of codes is a fault. -/
theorem vertices_missing {place : Drawing → Drawing} {n : Nat} {d : Drawing} {rest : List UInt32}
    (h : rest.length < 2) : vertices place (n + 1) d rest = .error .missingParameters := by
  match rest, h with
  | [], _ => rfl
  | [_], _ => rfl

/-- An advance does not change what comes of a reader. -/
theorem outcome_of_advances (h : Advances shape s r r') :
    r'.outcome shape s = r.outcome shape s := by
  cases h with
  | command integer d due moving hdue hread hbegin =>
    rw [outcome_of_read hdue hread, hbegin]
    rfl
  | vertex due d hdue hread hmoved =>
    rw [outcome_of_pair hdue hread, hmoved]
    rfl

/-- A reader stops with what was to come of it. -/
theorem outcome_of_stopped (h : r.step shape s = .stopped result looks) :
    r.outcome shape s = result := by
  -- There are four ways to stop: the end, a command or a vertex that cannot be drawn, and a vertex
  -- without its codes.
  unfold step at h
  split at h
  · next hdue =>
    split at h
    · next hread =>
      cases h
      rw [outcome_of_due_eq_zero hdue, List.drop_eq_nil_of_le (List.getElem?_eq_none_iff.1 hread),
        run]
    · next integer hread =>
      dsimp only at h
      split at h
      · next e hbegin =>
        cases h
        rw [outcome_of_read hdue hread, hbegin]
        rfl
      · cases h
  · next due hdue =>
    split at h
    · next hread =>
      dsimp only at h
      split at h
      · next e hmoved =>
        cases h
        rw [outcome_of_pair hdue hread, hmoved]
        rfl
      · cases h
    · next hread =>
      cases h
      have hshort : (s.drop r.next).length < 2 := by
        rw [List.length_drop]
        omega
      rw [outcome, hdue, vertices_missing hshort]
      rfl

/-! ## Every integer once -/

/-- An advance reads at least one integer. -/
theorem lt_of_advances (h : Advances shape s r r') : r.next < r'.next := by
  cases h with
  | command => exact Nat.lt_succ_self _
  | vertex => exact Nat.lt_add_of_pos_right (Nat.succ_pos 1)

/-- One more look, from the next place on. -/
theorem Covers.cons {next : Nat} {look : Look} (h : Covers s looks next) (hsees : look.Sees s)
    (hplaces : look.places = List.range' next look.places.length) :
    Covers s (look :: looks) (next + look.places.length) where
  within := by
    cases look with
    | command place number =>
      obtain ⟨integer, hread, -⟩ := hsees
      obtain rfl : place = next := List.head_eq_of_cons_eq hplaces
      exact (List.getElem?_eq_some_iff.1 hread).1
    | vertex place starts =>
      obtain rfl : place = next := List.head_eq_of_cons_eq hplaces
      exact hsees
  inOrder := by
    rw [List.reverse_cons, List.flatMap_append, h.inOrder, List.flatMap_singleton, hplaces,
      List.length_range', List.range_add, List.range'_eq_map_range]
  sees := List.forall_mem_cons.2 ⟨hsees, h.sees⟩

/-- An advance looks at the integers from the next place on. -/
theorem covers_of_advances (h : Advances shape s r r') (hr : Covers s r.looks r.next) :
    Covers s r'.looks r'.next := by
  cases h with
  | command integer d due moving hdue hread hbegin => exact hr.cons ⟨integer, hread, rfl⟩ rfl
  | vertex due d hdue hread hmoved => exact hr.cons hread rfl

/-- The last step looks at nothing that was looked at before. -/
theorem covers_of_stopped (h : r.step shape s = .stopped result looks)
    (hr : Covers s r.looks r.next) : ∃ k, Covers s looks k := by
  rcases stopped_of_step h with ⟨-, -, -, rfl⟩ | ⟨-, -, rfl | ⟨look, rfl, hsees, hplaces⟩⟩
  · exact ⟨_, hr⟩
  · exact ⟨_, hr⟩
  · exact ⟨_, hr.cons hsees hplaces⟩

/-! ## Whole runs -/

/-- A reader stops once it has been given a step for each integer before it and one more; every
reader that it went through came from the one in front by a step. -/
theorem exists_stopped {n : Nat} (hn : s.length < r.next + n) (hr : Covers s r.looks r.next) :
    ∃ last result looks, Relation.ReflTransGen (Advances shape s) r last ∧
      last.step shape s = .stopped result looks ∧ after shape s n r = .stopped result looks := by
  induction n generalizing r with
  | zero => exact absurd hn (Nat.not_lt.2 hr.within)
  | succ n ih =>
    rw [after]
    cases hstep : r.step shape s with
    | stopped result looks => exact ⟨r, result, looks, .refl, hstep, rfl⟩
    | onward r' =>
      have hadvances := advances_of_step hstep
      have hlt := lt_of_advances hadvances
      obtain ⟨last, result, looks, hreached, hlast, hafter⟩ :=
        ih (by omega) (covers_of_advances hadvances hr)
      exact ⟨last, result, looks, .head hadvances hreached, hlast, hafter⟩

/-- At the start nothing has been read. -/
theorem covers_start (s : List UInt32) : Covers s [] 0 := ⟨Nat.zero_le _, rfl, nofun⟩

/-- Each of the two advances is a step that goes on. -/
theorem step_of_advances (h : Advances shape s r r') : r.step shape s = .onward r' := by
  cases h with
  | command integer d due moving hdue hread hbegin => simp only [step, hdue, hread, hbegin]
  | vertex due d hdue hread hmoved => simp only [step, hdue, dif_pos hread, hmoved]

section Reached

variable {last : Reader} (h : Relation.ReflTransGen (Advances shape s) r last)
include h

/-- What comes of a reader is what comes of any it goes on to. -/
theorem outcome_of_reached : last.outcome shape s = r.outcome shape s := by
  induction h with
  | refl => rfl
  | tail _ hadvances ih => rw [outcome_of_advances hadvances, ih]

/-- Along a run each integer is read once and in order. -/
theorem covers_of_reached (hr : Covers s r.looks r.next) : Covers s last.looks last.next := by
  induction h with
  | refl => exact hr
  | tail _ hadvances ih => exact covers_of_advances hadvances ih

/-- Where a reader comes to a stop, it stops whatever more steps it is given. -/
theorem after_of_reached {n : Nat} (hn : s.length < r.next + n) (hr : Covers s r.looks r.next)
    (hlast : last.step shape s = .stopped result looks) :
    after shape s n r = .stopped result looks := by
  induction h using Relation.ReflTransGen.head_induction_on generalizing n with
  | refl =>
    cases n with
    | zero => exact absurd hn (Nat.not_lt.2 hr.within)
    | succ n => rw [after, hlast]
  | head hadvances _ ih =>
    cases n with
    | zero => exact absurd hn (Nat.not_lt.2 hr.within)
    | succ n =>
      have hlt := lt_of_advances hadvances
      rw [after, step_of_advances hadvances]
      exact ih (by omega) (covers_of_advances hadvances hr)

end Reached

end Steps

/-! ## Commands that are carried out -/

section Commands

variable {shape : Shape} {s rest : List UInt32} {d d' : Drawing} {next : Nat}

/-- The first integer of what is left is the one at the next place. -/
theorem getElem_of_drop {integer : UInt32} (h : s.drop next = integer :: rest) :
    ∃ hlt : next < s.length, s[next] = integer ∧ s.drop (next + 1) = rest := by
  have hlt : next < s.length := by
    by_contra hge
    rw [List.drop_eq_nil_of_le (Nat.le_of_not_lt hge)] at h
    cases h
  rw [List.drop_eq_getElem_cons hlt] at h
  obtain ⟨hhead, htail⟩ := List.cons_eq_cons.1 h
  exact ⟨hlt, hhead, htail⟩

/-- The vertices that are due are read and placed. -/
theorem reached_of_trace {moving : Bool} {codes : List (UInt32 × UInt32)}
    (hs : s.drop next = DrawCommand.parameters codes ++ rest)
    (h : trace (placing shape moving) codes d = .ok d') (looks : List Look) :
    Relation.ReflTransGen (Advances shape s) ⟨d, next, codes.length, moving, looks⟩
        ⟨d', next + 2 * codes.length, 0, moving,
          (Look.ofVertices moving next codes.length).reverse ++ looks⟩ ∧
      s.drop (next + 2 * codes.length) = rest := by
  induction codes generalizing d next looks with
  | nil =>
    cases h
    exact ⟨.refl, hs⟩
  | cons c codes ih =>
    obtain ⟨hlt, hx, hs⟩ := getElem_of_drop hs
    obtain ⟨hread, hy, hs⟩ := getElem_of_drop hs
    rw [trace] at h
    cases hmoved : d.advance c.1 c.2 with
    | error e =>
      rw [hmoved] at h
      cases h
    | ok d₁ =>
      rw [hmoved] at h
      rw [← hx, ← hy] at hmoved
      have hplace : next + 2 * (codes.length + 1) = next + 2 + 2 * codes.length := by omega
      obtain ⟨hreached, hrest⟩ := ih hs h (.vertex next moving :: looks)
      rw [List.length_cons, Look.ofVertices, List.reverse_cons, List.append_assoc, hplace]
      exact ⟨.head (.vertex codes.length d₁ rfl hread hmoved) hreached, hrest⟩

/-- A command that can be carried out is begun from its integer, and its codes are due. -/
theorem begin_integer {c : DrawCommand} (h : c.count < 2 ^ 29) (hd : d.perform shape c = .ok d') :
    ∃ d₁, d.begin shape (8 * c.count + c.id).toUInt32 = .ok (d₁, c.codes.length, c.isMove) ∧
      trace (placing shape c.isMove) c.codes d₁ = .ok d' := by
  rw [begin, toNat_integer c h]
  cases c with
  | move codes =>
    have hid : (8 * codes.length + 1) % 8 = 1 := by omega
    have hcount : (8 * codes.length + 1) / 8 = codes.length := by omega
    simp only [DrawCommand.count, DrawCommand.id, hid, hcount]
    exact ⟨d, rfl, hd⟩
  | line codes =>
    have hid : (8 * codes.length + 2) % 8 = 2 := by omega
    have hcount : (8 * codes.length + 2) / 8 = codes.length := by omega
    simp only [DrawCommand.count, DrawCommand.id, hid, hcount]
    rw [perform] at hd
    split at hd
    · cases hd
    · next hshape =>
      split at hd
      · cases hd
      · next hopen =>
        rw [if_neg hshape, if_neg hopen]
        exact ⟨d, rfl, hd⟩
  | close count =>
    have hid : (8 * count + 7) % 8 = 7 := by omega
    simp only [DrawCommand.count, DrawCommand.id, hid]
    rw [perform] at hd
    exact ⟨d', by rw [hd]; rfl, rfl⟩

/-- A command that is carried out is read, and then its vertices. -/
theorem reached_of_perform {c : DrawCommand} (hcount : c.count < 2 ^ 29) {moving : Bool}
    (hs : s.drop next = c.integers ++ rest) (h : d.perform shape c = .ok d') (looks : List Look) :
    Relation.ReflTransGen (Advances shape s) ⟨d, next, 0, moving, looks⟩
        ⟨d', next + 1 + 2 * c.codes.length, 0, c.isMove,
          (Look.ofCommand next c).reverse ++ looks⟩ ∧
      s.drop (next + 1 + 2 * c.codes.length) = rest := by
  obtain ⟨d₁, hbegin, htrace⟩ := begin_integer hcount h
  obtain ⟨hlt, hinteger, hs⟩ := getElem_of_drop hs
  have hid : (8 * c.count + c.id).toUInt32.toNat % 8 = c.id := by
    rw [toNat_integer c hcount]
    cases c <;> simp only [DrawCommand.id] <;> omega
  obtain ⟨hreached, hrest⟩ := reached_of_trace hs htrace (.command next c.id :: looks)
  have hcommand := Advances.command (r := ⟨d, next, 0, moving, looks⟩) _ _ _ _ rfl
    (List.getElem?_eq_some_iff.2 ⟨hlt, hinteger⟩) hbegin
  rw [hid] at hcommand
  rw [Look.ofCommand, List.reverse_cons, List.append_assoc]
  exact ⟨.head hcommand hreached, hrest⟩

/-- Commands that can be carried out are read in order, with the looks that they take. -/
theorem reached_of_performAll {commands : List DrawCommand}
    (hcounts : ∀ c ∈ commands, c.count < 2 ^ 29) {moving : Bool}
    (hs : s.drop next = commands.flatMap DrawCommand.integers)
    (h : performAll shape commands d = .ok d') (looks : List Look) :
    ∃ last, Relation.ReflTransGen (Advances shape s) ⟨d, next, 0, moving, looks⟩ last ∧
      last.step shape s
        = .stopped (.ok d') ((Look.ofCommands next commands).reverse ++ looks) := by
  induction commands generalizing d next moving looks with
  | nil =>
    cases h
    have hend : s[next]? = none := by
      rw [← List.head?_drop, hs]
      rfl
    exact ⟨_, .refl, by simp only [step, hend]; rfl⟩
  | cons c commands ih =>
    obtain ⟨hcount, hcounts⟩ := List.forall_mem_cons.1 hcounts
    rw [performAll] at h
    cases hd : d.perform shape c with
    | error e =>
      rw [hd] at h
      cases h
    | ok d₁ =>
      rw [hd] at h
      rw [List.flatMap_cons] at hs
      obtain ⟨hreached, hrest⟩ := reached_of_perform hcount hs hd looks
      obtain ⟨last, hlast, hstop⟩ := ih hcounts hrest h _
      refine ⟨last, hreached.trans hlast, ?_⟩
      rw [hstop, Look.ofCommands, List.reverse_append, List.append_assoc]

end Commands

end Reader

end TileScope
