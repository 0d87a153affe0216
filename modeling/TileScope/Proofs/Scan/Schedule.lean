import TileScope.Proofs.Scan.Outcome

/-!
# Scans by several workers

Workers share a scan: a worker takes a waiting tile, works on it while others do the same, and hands
in its outcome, so outcomes come in any order. `Progress.Step` is one such step. No step loses a
tile or hands in anything but what comes of the tile (`Progress.Sound.step`), so when all is handed
in, the outcomes merge into those of the report, whatever the steps were
(`Progress.merged_eq_outcomes`).
-/

namespace TileScope

/-- A scan under way: the tiles that wait, those that a worker has, and the outcomes handed in. -/
structure Progress where
  waiting : List TileKey
  working : List TileKey
  done : List (TileKey × Outcome)

namespace Progress

/-- All tiles of a list wait. -/
def start (keys : List TileKey) : Progress := ⟨keys, [], []⟩

/-- One step of one worker, where `outcome` is what comes of a tile. -/
inductive Step (outcome : TileKey → Outcome) : Progress → Progress → Prop where
  /-- A waiting tile is taken. -/
  | take (key : TileKey) (before behind working : List TileKey) (done : List (TileKey × Outcome)) :
    Step outcome ⟨before ++ key :: behind, working, done⟩ ⟨before ++ behind, key :: working, done⟩
  /-- The outcome of a tile is handed in. -/
  | handIn (key : TileKey) (waiting before behind : List TileKey)
    (done : List (TileKey × Outcome)) :
    Step outcome ⟨waiting, before ++ key :: behind, done⟩
      ⟨waiting, before ++ behind, done ++ [(key, outcome key)]⟩

/-- Any number of steps. -/
def Steps (outcome : TileKey → Outcome) : Progress → Progress → Prop :=
  Relation.ReflTransGen (Step outcome)

/-- Every outcome is handed in. -/
def Ended (p : Progress) : Prop := p.waiting = [] ∧ p.working = []

/-- The outcomes handed in, by tile. -/
def merged (p : Progress) : OrderedMap TileKey Outcome := .ofList p.done

/-- The tiles are those of a list, and what is handed in is what comes of them. -/
structure Sound (outcome : TileKey → Outcome) (keys : List TileKey) (p : Progress) : Prop where
  mem_iff : ∀ key, key ∈ keys ↔
    key ∈ p.waiting ∨ key ∈ p.working ∨ key ∈ p.done.map (·.1)
  handedIn : ∀ e ∈ p.done, e.2 = outcome e.1

section Runs

variable {outcome : TileKey → Outcome} {keys : List TileKey} {p q : Progress}

/-- At the start all tiles are waiting. -/
theorem sound_start (keys : List TileKey) : Sound outcome keys (start keys) where
  mem_iff key := by simp [start]
  handedIn e he := by cases he

/-- A step keeps the tiles and hands in what comes of them. -/
theorem Sound.step (h : Sound outcome keys p) (hstep : Step outcome p q) :
    Sound outcome keys q := by
  cases hstep with
  | take key before behind working done =>
    refine ⟨fun k => (h.mem_iff k).trans ?_, h.handedIn⟩
    simp only [List.mem_append, List.mem_cons]
    tauto
  | handIn key waiting before behind done =>
    refine ⟨fun k => (h.mem_iff k).trans ?_, fun e he => ?_⟩
    · simp only [List.mem_append, List.mem_cons, List.map_append, List.map_cons, List.map_nil,
        List.not_mem_nil, or_false]
      tauto
    · rcases List.mem_append.1 he with he | he
      · exact h.handedIn e he
      · rw [List.mem_singleton.1 he]

/-- A run keeps the tiles and hands in what comes of them. -/
theorem Sound.steps (h : Sound outcome keys p) (hsteps : Steps outcome p q) :
    Sound outcome keys q := by
  induction hsteps with
  | refl => exact h
  | tail _ hstep ih => exact ih.step hstep

/-- A scan under way can always be brought to its end. -/
theorem exists_ended (outcome : TileKey → Outcome) (p : Progress) :
    ∃ q, Steps outcome p q ∧ q.Ended := by
  obtain ⟨waiting, working, done⟩ := p
  -- One way to the end: take all that waits, then hand in all that was taken.
  induction waiting generalizing working with
  | cons key waiting ih =>
    obtain ⟨q, hsteps, hended⟩ := ih (key :: working)
    exact ⟨q, .head (.take key [] waiting working done) hsteps, hended⟩
  | nil =>
    induction working generalizing done with
    | nil => exact ⟨_, .refl, rfl, rfl⟩
    | cons key working ih =>
      obtain ⟨q, hsteps, hended⟩ := ih (done ++ [(key, outcome key)])
      exact ⟨q, .head (.handIn key [] [] working done) hsteps, hended⟩

/-- **The order of the work does not matter.** However a scan of the tiles of a list goes, in the
end the outcomes merge into those of the report. -/
theorem merged_eq_outcomes {s : Store} {cancelled : Bool} {query : Query} {order : List TileKey}
    (horder : ∀ key, key ∈ order ↔ key ∈ keys)
    (hsteps : Steps (s.scanTile cancelled query) (start order) p) (hended : p.Ended) :
    p.merged = (s.scan cancelled keys query).outcomes := by
  have hsound := (sound_start order).steps hsteps
  refine OrderedMap.ext_get? fun key => Option.ext fun o => ?_
  have hdone : key ∈ p.done.map (·.1) ↔ key ∈ keys := by
    rw [← horder, hsound.mem_iff, hended.1, hended.2]
    simp
  rw [merged, OrderedMap.get?_ofList hsound.handedIn, Store.get?_outcomes]
  by_cases hkey : key ∈ keys
  · rw [if_pos (hdone.2 hkey), Option.some.injEq, and_iff_right hkey]
  · rw [if_neg fun h => hkey (hdone.1 h)]
    simp [hkey]

end Runs

end Progress

end TileScope
