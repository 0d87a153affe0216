import Mathlib
import TileScope.Wire.Field

/-!
# What a reader takes does not depend on what follows

A reader is looked at as a function on lists of bytes (`Read.run`). Two facts about it are kept
together as `Read.Framed`:

| outcome of a run | what more bytes at the end change |
| --- | --- |
| a value and a rest | only the rest: the bytes taken are a *form* of the value (`Read.Forms`) |
| a fault other than a broken varint or an underflow | nothing, the fault stays |

Every combinator keeps `Framed`, so that a reader built from them is known to be framed from its
parts; what is a form for it follows from what is a form for the parts.
-/

namespace TileScope.Wire

namespace Read

variable {α β σ : Type}

/-- What a reader makes of a list of bytes: a value and the bytes after it. -/
def run (p : Read α) (bytes : List UInt8) : Except Fault (α × List UInt8) :=
  (p (.ofBytes bytes)).map fun a => (a.value, a.rest.bytes)

/-- A run forgets the length that an input carries, and nothing else. -/
theorem map_eq_run (p : Read α) (i : Input) :
    (p i).map (fun a => (a.value, a.rest.bytes)) = p.run i.bytes := by
  obtain ⟨bytes, n, rfl⟩ := i
  rfl

/-- A reader that succeeds has taken at least one byte. -/
theorem length_lt_of_run {p : Read α} {b r : List UInt8} {v : α} (h : p.run b = .ok (v, r)) :
    r.length < b.length := by
  unfold run at h
  cases hp : p (.ofBytes b) with
  | error e => simp [hp, Except.map] at h
  | ok a =>
    simp only [hp, Except.map, Except.ok.injEq, Prod.mk.injEq] at h
    rw [← h.2, ← a.rest.length_eq]
    exact a.short

/-- `form` is a written form of `v`: the reader takes it and nothing of what follows. -/
def Forms (p : Read α) (form : List UInt8) (v : α) : Prop :=
  ∀ rest, p.run (form ++ rest) = .ok (v, rest)

/-- A run does not depend on the bytes after what it takes, and of its faults only a broken varint
or an underflow can be mended by more bytes. -/
structure Framed (p : Read α) : Prop where
  value : ∀ {b r : List UInt8} {v : α}, p.run b = .ok (v, r) → ∃ c, b = c ++ r ∧ p.Forms c v
  fault : ∀ {b : List UInt8} {f : Fault}, p.run b = .error f → f.cause ≠ .varint →
    f.cause ≠ .underflow → ∀ rest, p.run (b ++ rest) = .error f

namespace Forms

variable {p : Read α} {c d b r : List UInt8} {v w : α}

/-- A form alone is read to its end. -/
theorem run_self (h : p.Forms c v) : p.run c = .ok (v, []) := by
  have := h []
  rwa [List.append_nil] at this

/-- A form has at least one byte. -/
theorem ne_nil (h : p.Forms c v) : c ≠ [] := by
  rintro rfl
  exact absurd (length_lt_of_run h.run_self) (Nat.lt_irrefl _)

/-- A list of bytes begins with one form at most. -/
theorem unique (h : p.Forms c v) (h' : p.Forms d w) (e : c ++ b = d ++ r) :
    c = d ∧ v = w ∧ b = r := by
  have hb := h b
  rw [e, h' r, Except.ok.injEq, Prod.mk.injEq] at hb
  obtain ⟨rfl, rfl⟩ := hb
  exact ⟨List.append_cancel_right e, rfl, rfl⟩

end Forms

/-- What a framed reader takes to the end is a form. -/
theorem Framed.forms_of_run {p : Read α} (hp : p.Framed) {c : List UInt8} {v : α}
    (h : p.run c = .ok (v, [])) : p.Forms c v := by
  obtain ⟨d, hd, hf⟩ := hp.value h
  rw [List.append_nil] at hd
  rwa [hd]

/-! ## Combinators -/

/-- A changed value is read as the value and then changed. -/
theorem run_map (f : α → β) (p : Read α) (b : List UInt8) :
    (p.map f).run b = match p.run b with
      | .error e => .error e
      | .ok (v, r) => .ok (f v, r) := by
  unfold run Read.map
  cases p (.ofBytes b) <;> rfl

/-- Two values are read one after the other, up to the first fault. -/
theorem run_andThen (p : Read α) (f : α → Read β) (b : List UInt8) :
    (p.andThen f).run b = match p.run b with
      | .error e => .error e
      | .ok (v, r) => (f v).run r := by
  rw [run, run]
  unfold andThen
  cases p (.ofBytes b) with
  | error e => rfl
  | ok a =>
    show _ = (f a.value).run a.rest.bytes
    rw [← map_eq_run]
    show Except.map _ (Except.map _ (f a.value a.rest)) = _
    cases f a.value a.rest <;> rfl

/-- A checked value is read and then checked. -/
theorem run_check (p : Read α) (f : α → Except Cause β) (b : List UInt8) :
    (p.check f).run b = match p.run b with
      | .error e => .error e
      | .ok (v, r) => match f v with
        | .error cause => .error (.of cause)
        | .ok w => .ok (w, r) := by
  rw [run, run]
  unfold check
  cases p (.ofBytes b) with
  | error e => rfl
  | ok a =>
    simp only [Except.map]
    cases f a.value <;> rfl

/-- A fault in a field is the fault of the reader, placed in the field. -/
theorem run_inField (field : FieldName) (p : Read α) (b : List UInt8) :
    (p.inField field).run b = match p.run b with
      | .error e => .error (e.within field)
      | .ok a => .ok a := by
  unfold run inField
  cases p (.ofBytes b) <;> rfl

/-- A reader that fails does so on any bytes. -/
theorem run_fail (cause : Cause) (b : List UInt8) :
    (fail cause : Read α).run b = .error (.of cause) := rfl

section Combinators

variable {p : Read α} {c d b : List UInt8} {v : α} {w : β}

/-- A form of a value is one of the changed value. -/
theorem Forms.map (f : α → β) (h : p.Forms c v) : (p.map f).Forms c (f v) := fun rest => by
  rw [run_map, h rest]

/-- Two forms one after the other are a form of both values. -/
theorem Forms.andThen {f : α → Read β} (h : p.Forms c v) (h' : (f v).Forms d w) :
    (p.andThen f).Forms (c ++ d) w := fun rest => by
  rw [run_andThen, List.append_assoc, h (d ++ rest)]
  exact h' rest

/-- A form of a value that passes a check is one of what the check gives. -/
theorem Forms.check {f : α → Except Cause β} (h : p.Forms c v) (hf : f v = .ok w) :
    (p.check f).Forms c w := fun rest => by
  simp only [run_check, h rest, hf]

/-- A form of a value is one in any field. -/
theorem Forms.inField (field : FieldName) (h : p.Forms c v) : (p.inField field).Forms c v :=
  fun rest => by rw [run_inField, h rest]

/-- A reader that fails is framed. -/
theorem framed_fail (cause : Cause) : (fail cause : Read α).Framed where
  value h := by simp [run_fail] at h
  fault h _ _ _ := h

/-- Changing the value keeps a reader framed. -/
theorem Framed.map (f : α → β) (hp : p.Framed) : (p.map f).Framed where
  value {b r _} h := by
    cases hr : p.run b with
    | error e => simp [run_map, hr] at h
    | ok a =>
      simp only [run_map, hr, Except.ok.injEq, Prod.mk.injEq] at h
      obtain ⟨rfl, rfl⟩ := h
      obtain ⟨c, hc, hf⟩ := hp.value hr
      exact ⟨c, hc, hf.map f⟩
  fault {b _} h hv hu rest := by
    cases hr : p.run b with
    | error e =>
      simp only [run_map, hr, Except.error.injEq] at h
      rw [run_map, hp.fault hr (h ▸ hv) (h ▸ hu) rest, h]
    | ok a => simp [run_map, hr] at h

/-- Framed readers one after the other are framed. -/
theorem Framed.andThen {f : α → Read β} (hp : p.Framed) (hf : ∀ v, (f v).Framed) :
    (p.andThen f).Framed where
  value {b r _} h := by
    cases hr : p.run b with
    | error e => simp [run_andThen, hr] at h
    | ok a =>
      simp only [run_andThen, hr] at h
      obtain ⟨c, hc, hcv⟩ := hp.value hr
      obtain ⟨d, hd, hdv⟩ := (hf a.1).value h
      exact ⟨c ++ d, by rw [hc, hd, List.append_assoc], hcv.andThen hdv⟩
  fault {b _} h hv hu rest := by
    cases hr : p.run b with
    | error e =>
      simp only [run_andThen, hr, Except.error.injEq] at h
      rw [run_andThen, hp.fault hr (h ▸ hv) (h ▸ hu) rest, h]
    | ok a =>
      simp only [run_andThen, hr] at h
      obtain ⟨c, hc, hcv⟩ := hp.value hr
      rw [run_andThen, hc, List.append_assoc, hcv (a.2 ++ rest)]
      exact (hf a.1).fault h hv hu rest

/-- A check keeps a reader framed. -/
theorem Framed.check (f : α → Except Cause β) (hp : p.Framed) : (p.check f).Framed where
  value {b r _} h := by
    cases hr : p.run b with
    | error e => simp [run_check, hr] at h
    | ok a =>
      cases hw : f a.1 with
      | error cause => simp [run_check, hr, hw] at h
      | ok w =>
        simp only [run_check, hr, hw, Except.ok.injEq, Prod.mk.injEq] at h
        obtain ⟨rfl, rfl⟩ := h
        obtain ⟨c, hc, hcv⟩ := hp.value hr
        exact ⟨c, hc, hcv.check hw⟩
  fault {b _} h hv hu rest := by
    cases hr : p.run b with
    | error e =>
      simp only [run_check, hr, Except.error.injEq] at h
      rw [run_check, hp.fault hr (h ▸ hv) (h ▸ hu) rest, h]
    | ok a =>
      obtain ⟨c, hc, hcv⟩ := hp.value hr
      rw [run_check, hc, List.append_assoc, hcv (a.2 ++ rest)]
      cases hw : f a.1 with
      | error cause => simpa [run_check, hr, hw] using h
      | ok w => simp [run_check, hr, hw] at h

/-- Naming the field keeps a reader framed. -/
theorem Framed.inField (field : FieldName) (hp : p.Framed) : (p.inField field).Framed where
  value {b r _} h := by
    cases hr : p.run b with
    | error e => simp [run_inField, hr] at h
    | ok a =>
      simp only [run_inField, hr, Except.ok.injEq] at h
      obtain ⟨c, hc, hcv⟩ := hp.value (h ▸ hr)
      exact ⟨c, hc, hcv.inField field⟩
  fault {b _} h hv hu rest := by
    cases hr : p.run b with
    | error e =>
      simp only [run_inField, hr, Except.error.injEq] at h
      obtain rfl := h
      rw [run_inField, hp.fault hr hv hu rest]
    | ok a => simp [run_inField, hr] at h

/-- The forms of a changed value are those of the values changed to it. -/
theorem Framed.forms_map_iff (hp : p.Framed) {f : α → β} :
    (p.map f).Forms b w ↔ ∃ v, p.Forms b v ∧ f v = w := by
  constructor
  · intro h
    have hb := h.run_self
    cases hr : p.run b with
    | error e => simp [run_map, hr] at hb
    | ok a =>
      simp only [run_map, hr, Except.ok.injEq, Prod.mk.injEq] at hb
      obtain ⟨hw, hn⟩ := hb
      exact ⟨a.1, hp.forms_of_run (by rw [hr, ← hn]), hw⟩
  · rintro ⟨v, h, rfl⟩
    exact h.map f

/-- The forms in a field are the forms without it. -/
theorem Framed.forms_inField_iff (hp : p.Framed) {field : FieldName} :
    (p.inField field).Forms b v ↔ p.Forms b v := by
  constructor
  · intro h
    have hb := h.run_self
    cases hr : p.run b with
    | error e => simp [run_inField, hr] at hb
    | ok a =>
      simp only [run_inField, hr, Except.ok.injEq] at hb
      exact hp.forms_of_run (by rw [hr, hb])
  · exact fun h => h.inField field

/-- The forms of what a check gives are those of the values it gives it for. -/
theorem Framed.forms_check_iff (hp : p.Framed) {f : α → Except Cause β} :
    (p.check f).Forms b w ↔ ∃ v, p.Forms b v ∧ f v = .ok w := by
  constructor
  · intro h
    have hb := h.run_self
    cases hr : p.run b with
    | error e => simp [run_check, hr] at hb
    | ok a =>
      cases hw : f a.1 with
      | error cause => simp [run_check, hr, hw] at hb
      | ok w' =>
        simp only [run_check, hr, hw, Except.ok.injEq, Prod.mk.injEq] at hb
        obtain ⟨rfl, hn⟩ := hb
        exact ⟨a.1, hp.forms_of_run (by rw [hr, ← hn]), hw⟩
  · rintro ⟨v, h, hf⟩
    exact h.check hf

/-- The forms of two values are a form of the one and then one of the other. -/
theorem Framed.forms_andThen_iff {f : α → Read β} (hp : p.Framed) (hf : ∀ v, (f v).Framed) :
    (p.andThen f).Forms b w ↔ ∃ c d v, b = c ++ d ∧ p.Forms c v ∧ (f v).Forms d w := by
  constructor
  · intro h
    have hb := h.run_self
    cases hr : p.run b with
    | error e => simp [run_andThen, hr] at hb
    | ok a =>
      simp only [run_andThen, hr] at hb
      obtain ⟨c, hc, hcv⟩ := hp.value hr
      exact ⟨c, a.2, a.1, hc, hcv, (hf a.1).forms_of_run hb⟩
  · rintro ⟨c, d, v, rfl, hc, hd⟩
    exact hc.andThen hd

end Combinators

end Read

end TileScope.Wire
