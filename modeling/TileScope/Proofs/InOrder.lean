/-!
# Steps taken in order

Of two steps that may fail the second one is taken if the first one succeeds (`bind_eq_ok_iff`). The
members of a list are taken one after the other in the same way. All of them are taken if each can
be, and then give what each gives, in order (`mapM_eq_ok_iff`); if not, it is the first member at
fault that is heard of (`mapM_eq_error_iff`).
-/

namespace TileScope

/-- A pass in which every element comes to a value gives the values. -/
theorem mapM_map_eq_pure {m : Type → Type} [Monad m] [LawfulMonad m] {α β γ : Type} {f : α → m β}
    {g : γ → α} {k : γ → β} {l : List γ} (h : ∀ c ∈ l, f (g c) = pure (k c)) :
    (l.map g).mapM f = pure (l.map k) := by
  induction l with
  | nil => rfl
  | cons c l ih =>
    rw [List.map_cons, List.mapM_cons, h c List.mem_cons_self, pure_bind,
      ih fun c hc => h c (List.mem_cons_of_mem _ hc), pure_bind, List.map_cons]

variable {α β ε : Type} {f : α → Except ε β} {l : List α}

/-- Two steps succeed if the first one does and the second one does with its result. -/
theorem bind_eq_ok_iff {x : Except ε α} {b : β} :
    x >>= f = .ok b ↔ ∃ a, x = .ok a ∧ f a = .ok b := by
  cases x with
  | error e => exact ⟨nofun, nofun⟩
  | ok a => exact ⟨fun h => ⟨a, rfl, h⟩, fun ⟨_, ha, h⟩ => Except.ok.inj ha ▸ h⟩

/-- An element with a result puts it in front of what the others give. -/
theorem mapM_cons_of_ok {a : α} {b : β} (h : f a = .ok b) :
    (a :: l).mapM f = (l.mapM f).map (b :: ·) := by
  rw [List.mapM_cons, h]
  cases l.mapM f <;> rfl

/-- The first element with a fault ends the pass. -/
theorem mapM_cons_of_error {a : α} {e : ε} (h : f a = .error e) : (a :: l).mapM f = .error e := by
  rw [List.mapM_cons, h]
  rfl

/-- A pass succeeds if every element has a result, and gives these in order. -/
theorem mapM_eq_ok_iff {r : List β} : l.mapM f = .ok r ↔ l.map f = r.map .ok := by
  induction l generalizing r with
  | nil =>
    cases r with
    | nil => exact ⟨fun _ => rfl, fun _ => rfl⟩
    | cons b r => exact ⟨nofun, nofun⟩
  | cons a l ih =>
    rw [List.map_cons]
    constructor
    · intro h
      cases ha : f a with
      | error e =>
        rw [mapM_cons_of_error ha] at h
        cases h
      | ok b =>
        rw [mapM_cons_of_ok ha] at h
        cases hl : l.mapM f with
        | error e =>
          rw [hl] at h
          cases h
        | ok bs =>
          rw [hl] at h
          cases h
          rw [ih.1 hl, List.map_cons]
    · intro h
      obtain ⟨b, bs, rfl, hb, hbs⟩ := List.map_eq_cons_iff.1 h.symm
      rw [mapM_cons_of_ok hb.symm, ih.2 hbs.symm]
      rfl

/-- What is given at a place was given by the member at the place. -/
theorem getElem?_of_mapM {r : List β} (h : l.mapM f = .ok r) {i : Nat} {b : β}
    (hb : r[i]? = some b) : ∃ a, l[i]? = some a ∧ f a = .ok b := by
  have hplace := congrArg (·[i]?) (mapM_eq_ok_iff.1 h)
  rw [List.getElem?_map, List.getElem?_map, hb] at hplace
  exact Option.map_eq_some_iff.1 hplace

/-- A pass fails with the first fault. -/
theorem mapM_eq_error {before after : List α} {a : α} {e : ε}
    (hbefore : ∀ b ∈ before, ∃ r, f b = .ok r) (h : f a = .error e) :
    (before ++ a :: after).mapM f = .error e := by
  induction before with
  | nil => exact mapM_cons_of_error h
  | cons b before ih =>
    obtain ⟨⟨r, hr⟩, hbefore⟩ := List.forall_mem_cons.1 hbefore
    rw [List.cons_append, mapM_cons_of_ok hr, ih hbefore]
    rfl

/-- It is the first member at fault that stops it. -/
theorem mapM_eq_error_iff {e : ε} : l.mapM f = .error e ↔
    ∃ before a after, l = before ++ a :: after ∧ (∀ b ∈ before, ∃ r, f b = .ok r) ∧
      f a = .error e := by
  refine ⟨fun h => ?_, fun ⟨_, _, _, hl, hbefore, ha⟩ => hl ▸ mapM_eq_error hbefore ha⟩
  induction l with
  | nil => cases h
  | cons a l ih =>
    cases ha : f a with
    | error e' =>
      rw [mapM_cons_of_error ha] at h
      cases h
      exact ⟨[], a, l, rfl, nofun, ha⟩
    | ok b =>
      rw [mapM_cons_of_ok ha] at h
      cases hl : l.mapM f with
      | ok bs =>
        rw [hl] at h
        cases h
      | error e' =>
        rw [hl] at h
        cases h
        obtain ⟨before, c, after, rfl, hbefore, hc⟩ := ih hl
        exact ⟨a :: before, c, after, rfl, List.forall_mem_cons.2 ⟨⟨b, ha⟩, hbefore⟩, hc⟩

end TileScope
