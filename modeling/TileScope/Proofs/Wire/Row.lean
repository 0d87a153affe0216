import TileScope.Proofs.Wire.Framing

/-!
# Rows

A loop that ends well has read a `Row`: forms of its steps one after the other, each step from the
state that the one before left (`runLoop_eq_ok_iff`). Reading up to a nested length is such a loop
with a limit on what may be left; more bytes at the end move the limit along with them
(`runLoop_fault`), so the comparison of a nested length with all that is left does no harm.
-/

namespace TileScope.Wire

namespace Read

variable {σ : Type}

/-- Forms of steps one after the other, from one state to another. -/
inductive Row (step : σ → Read σ) : σ → List UInt8 → σ → Prop where
  | nil (s : σ) : Row step s [] s
  | cons {s t u : σ} {c b : List UInt8} (first : (step s).Forms c t) (more : Row step t b u) :
      Row step s (c ++ b) u

/-- A loop on a list of bytes. -/
def runLoop (step : σ → Read σ) (limit : Nat) (s : σ) (b : List UInt8) :
    Except Fault (σ × List UInt8) :=
  let i := Input.ofBytes b
  (loop step limit (i.length + 1) s i i.length_lt_succ).map fun a => (a.value, a.rest.bytes)

section Loops

variable {step : σ → Read σ} {limit : Nat} {s t u : σ} {b c r : List UInt8}

/-- The bound of a loop is for its type alone. -/
theorem map_loop (bound bound' : Nat) (i : Input) (h : i.length < bound) (h' : i.length < bound') :
    (loop step limit bound s i h).map (fun a => (a.value, a.rest.bytes)) =
      (loop step limit bound' s i h').map fun a => (a.value, a.rest.bytes) := by
  induction hn : i.length using Nat.strongRecOn generalizing s i with
  | ind n ih =>
    rw [loop.eq_def step limit bound, loop.eq_def step limit bound']
    split
    · split <;> rfl
    · cases step s i with
      | error e => rfl
      | ok a => exact ih a.rest.length (hn ▸ a.short) a.rest _ _ rfl

/-- A loop ends at its limit, and takes one more step as long as it is above. -/
theorem runLoop_eq (step : σ → Read σ) (limit : Nat) (s : σ) (b : List UInt8) :
    runLoop step limit s b =
      if b.length ≤ limit then
        if b.length = limit then .ok (s, b) else .error (.of .overrun)
      else match (step s).run b with
        | .error e => .error e
        | .ok (t, r) => runLoop step limit t r := by
  rw [runLoop, loop, run]
  show Except.map _ (if b.length ≤ limit then _ else _) = _
  split
  · show Except.map _ (if b.length = limit then _ else _) = _
    split <;> rfl
  · cases step s (.ofBytes b) with
    | error e => rfl
    | ok a =>
      obtain ⟨t, ⟨r, n, rfl⟩, hr⟩ := a
      exact map_loop _ _ _ _ _

/-- A form in front of a loop is one step of it. -/
theorem runLoop_cons (h : (step s).Forms c t) (hl : limit ≤ r.length) :
    runLoop step limit s (c ++ r) = runLoop step limit t r := by
  have hc := List.length_pos_iff.2 h.ne_nil
  rw [runLoop_eq, if_neg (by rw [List.length_append]; omega), h r]

/-- A row in front of a loop is taken in as many steps as it has forms. -/
theorem Row.run (h : Row step s b t) (hl : limit ≤ r.length) :
    runLoop step limit s (b ++ r) = runLoop step limit t r := by
  induction h with
  | nil s => rfl
  | cons first _ ih =>
    rw [List.append_assoc, runLoop_cons first (by rw [List.length_append]; omega), ih]

/-- A row behind a row is a row. -/
theorem Row.append (h : Row step s b t) (h' : Row step t c u) : Row step s (b ++ c) u := by
  induction h with
  | nil s => exact h'
  | cons first _ ih => exact List.append_assoc .. ▸ .cons first (ih h')

/-- One form is a row. -/
theorem Row.single (h : (step s).Forms c t) : Row step s c t :=
  List.append_nil c ▸ .cons h (.nil t)

/-- A row of some bytes has a first form. -/
theorem Row.eq_cons (h : Row step s b u) (hb : b ≠ []) :
    ∃ c r t, b = c ++ r ∧ (step s).Forms c t ∧ Row step t r u := by
  cases h with
  | nil => exact absurd rfl hb
  | cons first more => exact ⟨_, _, _, rfl, first, more⟩

/-- A loop that ends well has read a row, down to the limit. -/
theorem runLoop_eq_ok_iff (hs : ∀ s, (step s).Framed) :
    runLoop step limit s b = .ok (t, r) ↔
      ∃ c, b = c ++ r ∧ r.length = limit ∧ Row step s c t := by
  constructor
  · intro h
    induction hn : b.length using Nat.strongRecOn generalizing s b with
    | ind n ih =>
      rw [runLoop_eq] at h
      split at h
      · split at h
        · next hl =>
          simp only [Except.ok.injEq, Prod.mk.injEq] at h
          obtain ⟨rfl, rfl⟩ := h
          exact ⟨[], rfl, hl, .nil s⟩
        · simp at h
      · cases hr : (step s).run b with
        | error e => simp [hr] at h
        | ok a =>
          simp only [hr] at h
          obtain ⟨c, rfl, hc⟩ := (hs s).value hr
          obtain ⟨d, hd, hl, hrow⟩ := ih a.2.length (hn ▸ length_lt_of_run hr) h rfl
          exact ⟨c ++ d, by rw [hd, List.append_assoc], hl, .cons hc hrow⟩
  · rintro ⟨c, rfl, rfl, h⟩
    rw [h.run (Nat.le_refl _), runLoop_eq, if_pos (Nat.le_refl _), if_pos rfl]

/-- A fault that more bytes cannot mend stays when they come, and the limit with them. -/
theorem runLoop_fault (hs : ∀ s, (step s).Framed) {f : Fault}
    (h : runLoop step limit s b = .error f) (hv : f.cause ≠ .varint) (hu : f.cause ≠ .underflow)
    (rest : List UInt8) : runLoop step (limit + rest.length) s (b ++ rest) = .error f := by
  induction hn : b.length using Nat.strongRecOn generalizing s b with
  | ind n ih =>
    rw [runLoop_eq] at h ⊢
    rw [List.length_append]
    split at h
    · split at h
      · simp at h
      · rw [if_pos (by omega), if_neg (by omega), h]
    · rw [if_neg (by omega)]
      cases hr : (step s).run b with
      | error e =>
        simp only [hr, Except.error.injEq] at h
        rw [(hs s).fault hr (h ▸ hv) (h ▸ hu) rest, h]
      | ok a =>
        simp only [hr] at h
        obtain ⟨c, rfl, hc⟩ := (hs s).value hr
        rw [List.append_assoc, hc (a.2 ++ rest)]
        exact ih a.2.length (hn ▸ length_lt_of_run hr) h rfl

/-- A loop without a limit fails at a step behind a row. -/
theorem runLoop_zero_eq_error (hs : ∀ s, (step s).Framed) {f : Fault}
    (h : runLoop step 0 s b = .error f) :
    ∃ c r t, b = c ++ r ∧ r ≠ [] ∧ Row step s c t ∧ (step t).run r = .error f := by
  induction hn : b.length using Nat.strongRecOn generalizing s b with
  | ind n ih =>
    rw [runLoop_eq] at h
    split at h
    · next hl => rw [if_pos (Nat.le_zero.1 hl)] at h; cases h
    · next hl =>
      cases hr : (step s).run b with
      | error e =>
        simp only [hr, Except.error.injEq] at h
        exact ⟨[], b, s, rfl, List.length_pos_iff.1 (Nat.not_le.1 hl), .nil s, h ▸ hr⟩
      | ok a =>
        simp only [hr] at h
        obtain ⟨c, rfl, hc⟩ := (hs s).value hr
        obtain ⟨d, r, t, hd, hne, hrow, hf⟩ := ih a.2.length (hn ▸ length_lt_of_run hr) h rfl
        exact ⟨c ++ d, r, t, by rw [hd, List.append_assoc], hne, .cons hc hrow, hf⟩

end Loops

end Read

end TileScope.Wire
