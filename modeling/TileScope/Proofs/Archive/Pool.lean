import Mathlib
import TileScope.Archive.Session

/-!
# Connections are neither shared nor lost

However the steps of calls mix, the connections that were ever opened are those that lie idle and
those that calls have, each one once (`Step.accounted`). So calls share none, and when no call is
under way all of them are idle (`Run.neither_shared_nor_lost`).

A call opens a connection only after it found none idle. Others may have given theirs back since, so
at the time of opening nothing is known about the idle ones; what is kept is a bound on the opened
connections and those about to be opened taken together. It grows only when a call finds nothing
idle, and then it is the number of calls under way (`Step.opened_add_opening_le`).
-/

namespace TileScope.Archive

namespace Pool

variable {p p' : Pool} {c : Nat}

/-- A connection is taken if it is the first of those that are idle. -/
theorem take?_eq_some_iff :
    p.take? = some (c, p') ↔ p.idle = c :: p'.idle ∧ p.opened = p'.opened := by
  obtain ⟨idle, opened⟩ := p
  obtain ⟨idle', opened'⟩ := p'
  cases idle <;> simp [take?, and_assoc]

/-- None is taken if none is idle. -/
theorem take?_eq_none_iff : p.take? = none ↔ p.idle = [] := by
  rw [take?]
  cases p.idle <;> simp

end Pool

namespace Traffic

/-- A run of calls from an archive that was just opened, with the traffic at its end and the largest
number of calls that were under way at the same time. -/
inductive Run : Traffic → Nat → Prop where
  | start : Run start 0
  | step {t t' : Traffic} {peak : Nat} (h : Run t peak) (hstep : Step t t') :
    Run t' (max peak t'.calls.length)

/-- How many calls are about to open a connection. -/
def opening (t : Traffic) : Nat := t.calls.count .opening

/-- The connections that are idle or in a call are those that were opened. -/
def Accounted (t : Traffic) : Prop := (t.pool.idle ++ t.held).Perm (List.range t.pool.opened)

section Calls

variable (p : Pool) (before behind : List Call) (call : Call)

/-- A call adds its connection to those that are held. -/
theorem held_append_cons : held ⟨p, before ++ call :: behind⟩ =
    held ⟨p, before⟩ ++ (call.connection?.toList ++ held ⟨p, behind⟩) := by
  rw [held, List.filterMap_append, List.filterMap_cons]
  cases call.connection? <;> rfl

/-- The connections held are those held in front and those held behind. -/
theorem held_append : held ⟨p, before ++ behind⟩ = held ⟨p, before⟩ ++ held ⟨p, behind⟩ :=
  List.filterMap_append

/-- A call counts among those that open a connection if it does so. -/
theorem opening_append_cons : opening ⟨p, before ++ call :: behind⟩ =
    opening ⟨p, before ++ behind⟩ + if call = .opening then 1 else 0 := by
  simp only [opening, List.count_append, List.count_cons, beq_iff_eq]
  omega

/-- A call has a connection or is about to open one. -/
theorem length_calls (t : Traffic) : t.calls.length = t.held.length + t.opening := by
  obtain ⟨p, calls⟩ := t
  induction calls with
  | nil => rfl
  | cons call calls ih =>
    have hheld := held_append_cons p [] calls call
    have hopening := opening_append_cons p [] calls call
    rw [List.nil_append] at hheld hopening
    rw [hheld, hopening, List.length_cons, ih]
    cases call <;> simp [Call.connection?, held] <;> omega

end Calls

variable {t t' : Traffic} {peak : Nat}

/-- Where a call stands makes no difference to the connections at hand. -/
theorem perm_cons_held (idle : List Nat) (p : Pool) (before behind : List Call) (c : Nat) :
    (idle ++ (held ⟨p, before⟩ ++ c :: held ⟨p, behind⟩)).Perm
      (c :: (idle ++ held ⟨p, before ++ behind⟩)) := by
  rw [held_append]
  exact (List.perm_middle.append_left _).trans List.perm_middle

/-- At the start no connection is open. -/
theorem accounted_start : Accounted start := .refl _

/-- **No step shares or loses a connection.** -/
theorem Step.accounted (hstep : Step t t') (h : t.Accounted) : t'.Accounted := by
  cases hstep with
  | take calls htake =>
    obtain ⟨hidle, hopened⟩ := Pool.take?_eq_some_iff.1 htake
    rw [Accounted, hidle, hopened] at h
    exact List.perm_middle.trans h
  | miss calls htake => exact h
  | openNew p before behind =>
    have hopening : (p.idle ++ held ⟨p, before ++ behind⟩).Perm (List.range p.opened) := by
      rw [Accounted, held_append_cons] at h
      rwa [held_append]
    rw [Accounted, held_append_cons]
    show List.Perm _ (List.range (p.opened + 1))
    rw [List.range_succ]
    exact (perm_cons_held p.idle p before behind p.opened).trans
      ((hopening.cons _).trans (List.perm_append_singleton _ _).symm)
  | openFails p before behind =>
    rw [Accounted, held_append_cons] at h
    rwa [Accounted, held_append]
  | ask p c answered before behind =>
    rw [Accounted, held_append_cons] at h ⊢
    exact h
  | giveBack p c answered before behind =>
    rw [Accounted, held_append_cons] at h
    exact (perm_cons_held p.idle p before behind c).symm.trans h

/-- **Only a call that finds nothing idle adds to the connections that are open or about to be**, and
then there are as many of them as calls. -/
theorem Step.opened_add_opening_le (hstep : Step t t') (h : t.Accounted) :
    t'.pool.opened + t'.opening ≤ max (t.pool.opened + t.opening) t'.calls.length := by
  cases hstep with
  | take calls htake =>
    obtain ⟨-, hopened⟩ := Pool.take?_eq_some_iff.1 htake
    refine le_max_of_le_left (Nat.add_le_add hopened.ge ?_)
    simp [opening]
  | @miss p calls htake =>
    -- Nothing is idle, so every connection is held by a call.
    have hlength := h.length_eq
    rw [Pool.take?_eq_none_iff.1 htake, List.nil_append, List.length_range] at hlength
    have hcalls := length_calls ⟨p, .opening :: calls⟩
    have hheld : held ⟨p, .opening :: calls⟩ = held ⟨p, calls⟩ := rfl
    rw [hheld, hlength] at hcalls
    exact le_max_of_le_right hcalls.ge
  | openNew p before behind =>
    refine le_max_of_le_left ?_
    rw [opening_append_cons, opening_append_cons, if_pos rfl, if_neg nofun]
    exact (Nat.add_right_comm p.opened 1 (opening ⟨p, before ++ behind⟩)).le
  | openFails p before behind =>
    refine le_max_of_le_left ?_
    rw [opening_append_cons]
    exact Nat.add_le_add_left (Nat.le_add_right _ _) _
  | ask p c answered before behind =>
    refine le_max_of_le_left ?_
    rw [opening_append_cons, opening_append_cons, if_neg nofun, if_neg nofun]
  | giveBack p c answered before behind =>
    refine le_max_of_le_left ?_
    rw [opening_append_cons, if_neg nofun]
    exact le_refl _

namespace Run

/-- In every run each connection is idle or held, and only once. -/
theorem accounted (h : Run t peak) : t.Accounted := by
  induction h with
  | start => exact accounted_start
  | step _ hstep ih => exact hstep.accounted ih

/-- In every run there are no more connections than calls at the peak, or one. -/
theorem opened_add_opening_le (h : Run t peak) : t.pool.opened + t.opening ≤ max 1 peak := by
  induction h with
  | start => exact le_refl _
  | step h hstep ih =>
    have := hstep.opened_add_opening_le h.accounted
    omega

end Run

/-- **A call ends in one of two ways**: a connection cannot be opened for it, or it gives its
connection back, whether its question was answered or not. -/
theorem Step.ends (hstep : Step t t') (h : t'.calls.length < t.calls.length) :
    ∃ before call behind, t.calls = before ++ call :: behind ∧ t'.calls = before ++ behind ∧
      (call = .opening ∧ t'.pool = t.pool ∨
        ∃ c answered, call = .leaving c answered ∧ t'.pool = t.pool.giveBack c) := by
  cases hstep with
  | take calls htake => simp at h
  | miss calls htake => simp at h
  | openNew p before behind => simp at h
  | openFails p before behind => exact ⟨before, _, behind, rfl, rfl, .inl ⟨rfl, rfl⟩⟩
  | ask p c answered before behind => simp at h
  | giveBack p c answered before behind =>
    exact ⟨before, _, behind, rfl, rfl, .inr ⟨c, answered, rfl, rfl⟩⟩

/-- A call that no other one comes between is a run of its steps. With a connection it asks its
question on it and gives it back, whether it is answered or not; without one it ends where it was
about to open one. -/
theorem steps_call {ε : Type} (p : Pool) (calls : List Call) (reopen : Except ε Unit) :
    (∀ c, (p.call reopen).1 = .ok c → ∃ p' : Pool,
      Relation.TransGen Step ⟨p, calls⟩ ⟨p', .asking c :: calls⟩ ∧
      ∀ answered, Step ⟨p', .asking c :: calls⟩ ⟨p', .leaving c answered :: calls⟩ ∧
        Step ⟨p', .leaving c answered :: calls⟩ ⟨(p.call reopen).2, calls⟩) ∧
    ∀ e, (p.call reopen).1 = .error e → Step ⟨p, calls⟩ ⟨p, .opening :: calls⟩ ∧
      Step ⟨p, .opening :: calls⟩ ⟨(p.call reopen).2, calls⟩ := by
  -- With a connection the call goes on in the same way, wherever it has it from.
  have hask (p : Pool) (c : Nat) (answered : Bool) :
      Step ⟨p, .asking c :: calls⟩ ⟨p, .leaving c answered :: calls⟩ ∧
        Step ⟨p, .leaving c answered :: calls⟩ ⟨p.giveBack c, calls⟩ :=
    ⟨.ask p c answered [] calls, .giveBack p c answered [] calls⟩
  rw [Pool.call.eq_def]
  cases htake : p.take? with
  | some a =>
    refine ⟨?_, nofun⟩
    rintro c ⟨⟩
    exact ⟨a.2, .single (.take calls htake), hask a.2 a.1⟩
  | none =>
    have hmiss : Step ⟨p, calls⟩ ⟨p, .opening :: calls⟩ := .miss calls htake
    cases reopen with
    | error e => exact ⟨nofun, fun _ _ => ⟨hmiss, .openFails p [] calls⟩⟩
    | ok u =>
      refine ⟨?_, nofun⟩
      rintro c ⟨⟩
      exact ⟨p.openNew.2, .tail (.single hmiss) (.openNew p [] calls),
        hask p.openNew.2 p.openNew.1⟩

/-- **Connections are neither shared nor lost.** After any run of calls, a connection that was opened
is idle once or in one call, and never both; nothing else is either. There were never more opened
than calls under way at the same time, or one, and with no call under way all are idle. A call
ends by a failure to open, which leaves the pool as it is, or by giving its connection back, and
one that asks its question can go on to do so whether it is answered or not. A call on its own
comes to a run of such steps: it asks its question on the connection that it is given, and where it
is given none it ends by a failure to open. -/
theorem Run.neither_shared_nor_lost (h : Run t peak) :
    (∀ c, t.pool.idle.count c + t.held.count c = if c < t.pool.opened then 1 else 0) ∧
    t.pool.opened ≤ max 1 peak ∧
    (t.calls = [] → t.pool.idle.Perm (List.range t.pool.opened)) ∧
    (∀ t', Step t t' → t'.calls.length < t.calls.length →
      ∃ before call behind, t.calls = before ++ call :: behind ∧ t'.calls = before ++ behind ∧
        (call = .opening ∧ t'.pool = t.pool ∨
          ∃ c answered, call = .leaving c answered ∧ t'.pool = t.pool.giveBack c)) ∧
    (∀ before c behind, t.calls = before ++ .asking c :: behind → ∀ answered,
      Step t ⟨t.pool, before ++ .leaving c answered :: behind⟩ ∧
      Step ⟨t.pool, before ++ .leaving c answered :: behind⟩
        ⟨t.pool.giveBack c, before ++ behind⟩) ∧
    ∀ reopen : Except StoreError Unit,
      (∀ c, (t.pool.call reopen).1 = .ok c → ∃ p : Pool,
        Relation.TransGen Step t ⟨p, .asking c :: t.calls⟩ ∧
        ∀ answered, Step ⟨p, .asking c :: t.calls⟩ ⟨p, .leaving c answered :: t.calls⟩ ∧
          Step ⟨p, .leaving c answered :: t.calls⟩ ⟨(t.pool.call reopen).2, t.calls⟩) ∧
      ∀ e, (t.pool.call reopen).1 = .error e → Step t ⟨t.pool, .opening :: t.calls⟩ ∧
        Step ⟨t.pool, .opening :: t.calls⟩ ⟨(t.pool.call reopen).2, t.calls⟩ := by
  have hacc := h.accounted
  refine ⟨fun c => ?_, (Nat.le_add_right _ _).trans h.opened_add_opening_le, fun hcalls => ?_,
    fun t' hstep hless => hstep.ends hless, fun before c behind hcalls answered => ⟨?_, ?_⟩,
    fun reopen => steps_call t.pool t.calls reopen⟩
  · rw [← List.count_append, hacc.count_eq, List.count_range]
  · rwa [Accounted, held, hcalls, List.filterMap_nil, List.append_nil] at hacc
  · obtain ⟨p, calls⟩ := t
    obtain rfl : calls = _ := hcalls
    exact .ask p c answered before behind
  · exact .giveBack t.pool c answered before behind

/-- The second of two calls at the same time has to open a connection. The first one's question
fails, and its connection is idle all the same. -/
theorem neither_shared_nor_lost_twoCalls :
    let t : Traffic := ⟨⟨[0], 2⟩, [.asking 1]⟩
    Run t 2 ∧ t.pool.idle.count 0 + t.held.count 0 = 1 ∧ t.pool.idle.count 1 + t.held.count 1 = 1 ∧
      t.pool.idle.count 2 + t.held.count 2 = 0 ∧ t.pool.opened ≤ 2 := by
  intro t
  have hboth : Run ⟨⟨[], 1⟩, [.opening, .asking 0]⟩ 2 :=
    (Run.start.step (.take [] rfl)).step (.miss [.asking 0] rfl)
  have hasking : Run ⟨⟨[], 2⟩, [.asking 1, .asking 0]⟩ 2 :=
    hboth.step (.openNew ⟨[], 1⟩ [] [.asking 0])
  have hfailed : Run ⟨⟨[], 2⟩, [.asking 1, .leaving 0 false]⟩ 2 :=
    hasking.step (.ask ⟨[], 2⟩ 0 false [.asking 1] [])
  have ht : Run t 2 := hfailed.step (.giveBack ⟨[], 2⟩ 0 false [.asking 1] [])
  obtain ⟨honce, hopened, -⟩ := Run.neither_shared_nor_lost ht
  exact ⟨ht, honce 0, honce 1, honce 2, hopened⟩

end Traffic

end TileScope.Archive
