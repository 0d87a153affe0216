/-!
# Connections

Readers of one archive share its connections. A call takes the idle connection that was given back
last; if none is idle, it opens one; it asks its question, and whatever the answer, it gives the
connection back.

`Pool` is what the calls share and `Traffic.Step` is one atomic step of one of them, so a run of
any number of calls at the same time is a chain of such steps.
-/

namespace TileScope.Archive

/-- The connections of an archive, numbered as they are opened. -/
structure Pool where
  /-- The idle connections, the one given back last in front. -/
  idle : List Nat
  /-- How many were ever opened. -/
  opened : Nat
deriving DecidableEq, Repr

namespace Pool

/-- Opening an archive opens one connection. -/
def start : Pool := ⟨[0], 1⟩

/-- Takes an idle connection. -/
def take? (p : Pool) : Option (Nat × Pool) :=
  match p.idle with
  | [] => none
  | c :: rest => some (c, { p with idle := rest })

/-- Opens a connection. -/
def openNew (p : Pool) : Nat × Pool := (p.opened, { p with opened := p.opened + 1 })

/-- Gives a connection back. -/
def giveBack (p : Pool) (c : Nat) : Pool := { p with idle := c :: p.idle }

/-- A call from its start to its end: the connection that it asks its question on, and the pool
afterwards. Opening a connection comes to `reopen`. -/
def call {ε : Type} (p : Pool) (reopen : Except ε Unit) : Except ε Nat × Pool :=
  match p.take? with
  | some (c, p) => (.ok c, p.giveBack c)
  | none =>
    match reopen with
    | .error e => (.error e, p)
    | .ok () =>
      let (c, p) := p.openNew
      (.ok c, p.giveBack c)

end Pool

/-- Where a call stands that has not ended. -/
inductive Call where
  /-- It found no idle connection. -/
  | opening
  /-- It has a connection and asks its question. -/
  | asking (connection : Nat)
  /-- Its question is answered or has failed, and it is about to give the connection back. -/
  | leaving (connection : Nat) (answered : Bool)
deriving DecidableEq, Repr

/-- The connection that a call has. -/
def Call.connection? : Call → Option Nat
  | opening => none
  | asking c => some c
  | leaving c _ => some c

/-- A pool and the calls under way. -/
structure Traffic where
  pool : Pool
  calls : List Call
deriving DecidableEq, Repr

namespace Traffic

/-- An archive that was just opened. -/
def start : Traffic := ⟨.start, []⟩

/-- The connections that calls have. -/
def held (t : Traffic) : List Nat := t.calls.filterMap Call.connection?

/-- One step of one call. -/
inductive Step : Traffic → Traffic → Prop where
  /-- A call starts and finds an idle connection. -/
  | take {p p' : Pool} {c : Nat} (calls : List Call) (h : p.take? = some (c, p')) :
    Step ⟨p, calls⟩ ⟨p', .asking c :: calls⟩
  /-- A call starts and finds none. -/
  | miss {p : Pool} (calls : List Call) (h : p.take? = none) :
    Step ⟨p, calls⟩ ⟨p, .opening :: calls⟩
  /-- A connection is opened. -/
  | openNew (p : Pool) (before behind : List Call) :
    Step ⟨p, before ++ .opening :: behind⟩
      ⟨p.openNew.2, before ++ .asking p.openNew.1 :: behind⟩
  /-- A connection cannot be opened, which ends the call. -/
  | openFails (p : Pool) (before behind : List Call) :
    Step ⟨p, before ++ .opening :: behind⟩ ⟨p, before ++ behind⟩
  /-- The question is answered, or it fails. -/
  | ask (p : Pool) (c : Nat) (answered : Bool) (before behind : List Call) :
    Step ⟨p, before ++ .asking c :: behind⟩ ⟨p, before ++ .leaving c answered :: behind⟩
  /-- The connection is given back, which ends the call. -/
  | giveBack (p : Pool) (c : Nat) (answered : Bool) (before behind : List Call) :
    Step ⟨p, before ++ .leaving c answered :: behind⟩ ⟨p.giveBack c, before ++ behind⟩

end Traffic

end TileScope.Archive
