import TileScope.Proofs.Wire.Row
import TileScope.Proofs.Wire.Varint

/-!
# Fields are framed

Every reader of a field's value is framed, with what its forms are:

| reader | forms |
| --- | --- |
| `fixed n` | any `n + 1` bytes |
| `delimited` | a length and that many bytes |
| `block step s` | a length and a row of that many bytes |
-/

namespace TileScope.Wire

open Read

variable {σ : Type} {b c r : List UInt8}

/-! ## Values of a known size -/

/-- A number of fixed size is read when there are enough bytes for it. -/
theorem run_fixed (n : Nat) (b : List UInt8) :
    (fixed n).run b =
      if n + 1 ≤ b.length then .ok (littleEndian (b.take (n + 1)), b.drop (n + 1))
      else .error (.of .underflow) := by
  unfold run fixed
  show Except.map _ (if h : n + 1 ≤ b.length then _ else _) = _
  split <;> rfl

/-- That many bytes are a form of the number they make. -/
theorem forms_fixed {n : Nat} (h : c.length = n + 1) : (fixed n).Forms c (littleEndian c) :=
  fun rest => by
    rw [run_fixed, if_pos (by rw [List.length_append]; omega), ← h, List.take_left, List.drop_left]

/-- What was taken for a number of fixed size is that many bytes. -/
theorem fixed_eq_ok {n v : Nat} (h : (fixed n).run b = .ok (v, r)) :
    ∃ c, b = c ++ r ∧ c.length = n + 1 ∧ littleEndian c = v := by
  rw [run_fixed] at h
  split at h
  · next hl =>
    simp only [Except.ok.injEq, Prod.mk.injEq] at h
    obtain ⟨rfl, rfl⟩ := h
    exact ⟨b.take (n + 1), (List.take_append_drop ..).symm, by rw [List.length_take]; omega, rfl⟩
  · simp at h

/-- Numbers of fixed size are framed. -/
theorem framed_fixed (n : Nat) : (fixed n).Framed where
  value h := by
    obtain ⟨c, hb, hl, rfl⟩ := fixed_eq_ok h
    exact ⟨c, hb, forms_fixed hl⟩
  fault {b f} h _ hu _ := by
    rw [run_fixed] at h
    split at h
    · simp at h
    · exact absurd (congrArg Fault.cause (Except.error.inj h)).symm hu

/-- The forms of a number of fixed size are that many bytes. -/
theorem forms_fixed_iff {n v : Nat} :
    (fixed n).Forms c v ↔ c.length = n + 1 ∧ littleEndian c = v := by
  constructor
  · intro h
    obtain ⟨d, rfl, hl, hv⟩ := fixed_eq_ok h.run_self
    exact ⟨by rw [List.append_nil, hl], by rw [List.append_nil, hv]⟩
  · rintro ⟨hl, rfl⟩
    exact forms_fixed hl

/-! ## Values with a length -/

/-- A delimited value is read as its length and then that many bytes. -/
theorem run_delimited (b : List UInt8) :
    delimited.run b = match varint.run b with
      | .error e => .error e
      | .ok (n, r) =>
        if n.toNat ≤ r.length then .ok (r.take n.toNat, r.drop n.toNat)
        else .error (.of .underflow) := by
  rw [run, run]
  unfold delimited takeBytes
  cases varint (.ofBytes b) with
  | error e => rfl
  | ok a =>
    obtain ⟨n, ⟨r, m, rfl⟩, hr⟩ := a
    show Except.map _ (Except.map _ (if n.toNat ≤ r.length then _ else _)) =
      if n.toNat ≤ r.length then _ else _
    split <;> rfl

/-- A length and that many bytes are a form of these. -/
theorem forms_delimited {l : List UInt8} {n : UInt64} (hl : varint.Forms l n)
    (hn : b.length = n.toNat) : delimited.Forms (l ++ b) b := fun rest => by
  rw [run_delimited, List.append_assoc, hl (b ++ rest)]
  simp only
  rw [if_pos (by rw [List.length_append]; omega), ← hn, List.take_left, List.drop_left]

/-- What was taken for a delimited value is a length and that many bytes. -/
theorem delimited_eq_ok {v : List UInt8} (h : delimited.run b = .ok (v, r)) :
    ∃ l n, b = l ++ v ++ r ∧ varint.Forms l n ∧ v.length = n.toNat := by
  cases hr : varint.run b with
  | error e => simp [run_delimited, hr] at h
  | ok a =>
    simp only [run_delimited, hr] at h
    split at h
    · next hl =>
      simp only [Except.ok.injEq, Prod.mk.injEq] at h
      obtain ⟨rfl, rfl⟩ := h
      obtain ⟨l, rfl, hf⟩ := framed_varint.value hr
      exact ⟨l, a.1, by rw [List.append_assoc, List.take_append_drop], hf,
        by rw [List.length_take]; omega⟩
    · simp at h

/-- Delimited values are framed. -/
theorem framed_delimited : delimited.Framed where
  value {b r v} h := by
    obtain ⟨l, n, hb, hl, hn⟩ := delimited_eq_ok h
    exact ⟨l ++ v, hb, forms_delimited hl hn⟩
  fault {b f} h hv hu _ := by
    cases hr : varint.run b with
    | error e =>
      simp only [run_delimited, hr, Except.error.injEq] at h
      exact absurd (congrArg Fault.cause (h ▸ varint_eq_error hr)) hv
    | ok a =>
      simp only [run_delimited, hr] at h
      split at h
      · simp at h
      · exact absurd (congrArg Fault.cause (Except.error.inj h)).symm hu

/-- The forms of a delimited value are its length, in any form, and its bytes. -/
theorem forms_delimited_iff {v : List UInt8} :
    delimited.Forms c v ↔ ∃ l n, c = l ++ v ∧ varint.Forms l n ∧ v.length = n.toNat := by
  constructor
  · intro h
    obtain ⟨l, n, hc, hl, hn⟩ := delimited_eq_ok h.run_self
    exact ⟨l, n, by rw [hc, List.append_nil], hl, hn⟩
  · rintro ⟨l, n, rfl, hl, hn⟩
    exact forms_delimited hl hn

/-- Texts are framed. -/
theorem framed_text : text.Framed := framed_delimited.check _

/-- Keys are framed. -/
theorem framed_key : key.Framed := framed_varint.check _

/-- A check of the layout keeps a reader framed. -/
theorem Read.Framed.typed {α : Type} {p : Read α} (hp : p.Framed) (expected found : WireType) :
    (typed expected found p).Framed := by
  unfold Wire.typed
  split
  · exact hp
  · exact framed_fail _

/-! ## Blocks -/

section Blocks

variable {step : σ → Read σ} {s t : σ}

/-- A block is read as its length and then a loop down to what lies behind it. -/
theorem run_block (step : σ → Read σ) (s : σ) (b : List UInt8) :
    (block step s).run b = match varint.run b with
      | .error e => .error e
      | .ok (n, r) =>
        if n.toNat ≤ r.length then runLoop step (r.length - n.toNat) s r
        else .error (.of .underflow) := by
  rw [run, run]
  unfold block
  cases varint (.ofBytes b) with
  | error e => rfl
  | ok a =>
    obtain ⟨n, ⟨r, m, rfl⟩, hr⟩ := a
    show Except.map _ (if n.toNat ≤ r.length then _ else _) = if n.toNat ≤ r.length then _ else _
    split
    · exact map_loop _ _ _ _ _
    · rfl

/-- A length and a row of that many bytes are a form of what the row makes. -/
theorem forms_block {l : List UInt8} {n : UInt64} (hl : varint.Forms l n)
    (hn : b.length = n.toNat) (h : Row step s b t) : (block step s).Forms (l ++ b) t :=
  fun rest => by
    rw [run_block, List.append_assoc, hl (b ++ rest)]
    simp only
    have hlen : (b ++ rest).length - n.toNat = rest.length := by
      rw [List.length_append]
      omega
    rw [if_pos (by rw [List.length_append]; omega), hlen, h.run (Nat.le_refl _), runLoop_eq,
      if_pos (Nat.le_refl _), if_pos rfl]

/-- What was taken for a block is a length and a row of that many bytes. -/
theorem block_eq_ok (hs : ∀ s, (step s).Framed) (h : (block step s).run b = .ok (t, r)) :
    ∃ l n body, b = l ++ body ++ r ∧ varint.Forms l n ∧ body.length = n.toNat ∧
      Row step s body t := by
  cases hr : varint.run b with
  | error e => simp [run_block, hr] at h
  | ok a =>
    simp only [run_block, hr] at h
    split at h
    · next hl =>
      obtain ⟨l, rfl, hf⟩ := framed_varint.value hr
      obtain ⟨body, hb, hlen, hrow⟩ := (runLoop_eq_ok_iff hs).1 h
      have := congrArg List.length hb
      rw [List.length_append] at this
      exact ⟨l, a.1, body, by rw [hb, List.append_assoc], hf, by omega, hrow⟩
    · simp at h

/-- Blocks of framed steps are framed. -/
theorem framed_block (hs : ∀ s, (step s).Framed) (s : σ) : (block step s).Framed where
  value h := by
    obtain ⟨l, n, body, hb, hl, hn, hrow⟩ := block_eq_ok hs h
    exact ⟨l ++ body, hb, forms_block hl hn hrow⟩
  fault {b f} h hv hu rest := by
    cases hr : varint.run b with
    | error e =>
      simp only [run_block, hr, Except.error.injEq] at h
      exact absurd (congrArg Fault.cause (h ▸ varint_eq_error hr)) hv
    | ok a =>
      simp only [run_block, hr] at h
      split at h
      · next hl =>
        obtain ⟨l, rfl, hf⟩ := framed_varint.value hr
        -- the length is compared with all that is left, and the limit grows with it
        have hlen : (a.2 ++ rest).length - a.1.toNat = a.2.length - a.1.toNat + rest.length := by
          rw [List.length_append]
          omega
        rw [run_block, List.append_assoc, hf (a.2 ++ rest)]
        simp only
        rw [if_pos (by rw [List.length_append]; omega), hlen]
        exact runLoop_fault hs h hv hu rest
      · exact absurd (congrArg Fault.cause (Except.error.inj h)).symm hu

/-- The forms of a block are its length, in any form, and a row of that many bytes. -/
theorem forms_block_iff (hs : ∀ s, (step s).Framed) :
    (block step s).Forms c t ↔
      ∃ l n body, c = l ++ body ∧ varint.Forms l n ∧ body.length = n.toNat ∧ Row step s body t := by
  constructor
  · intro h
    obtain ⟨l, n, body, hc, hl, hn, hrow⟩ := block_eq_ok hs h.run_self
    exact ⟨l, n, body, by rw [hc, List.append_nil], hl, hn, hrow⟩
  · rintro ⟨l, n, body, rfl, hl, hn, h⟩
    exact forms_block hl hn h

/-- Fields with framed values are framed. -/
theorem framed_field {merge : Key → σ → Read σ} (hm : ∀ k s, (merge k s).Framed) (s : σ) :
    (field merge s).Framed := framed_key.andThen fun k => hm k s

/-- Messages of framed fields are framed. -/
theorem framed_message {merge : Key → σ → Read σ} (hm : ∀ k s, (merge k s).Framed) (start : σ)
    (found : WireType) : (message merge start found).Framed :=
  (framed_block (framed_field hm) start).typed _ _

/-- Numbers are framed, packed or not. -/
theorem framed_packed (found : WireType) (values : Array UInt32) :
    (packed found values).Framed := by
  have one : ∀ values : Array UInt32, (varint.map fun n => values.push n.toUInt32).Framed :=
    fun _ => framed_varint.map _
  unfold packed
  split
  · exact framed_block one values
  · exact (one values).typed _ _

end Blocks

end TileScope.Wire
