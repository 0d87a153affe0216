import TileScope.Proofs.Wire.Framing
import TileScope.Wire.Scalar

/-!
# Varints

A varint is a run of bytes that ask for another one and a byte that does not; its number stands in
the low seven bits of each, low bits first (`forms_varint_iff`). At most nine bytes may ask for
another one. `writeVarint` is the shortest written form of a number, and the form of every number
below `2 ^ 64` (`forms_writeVarint`).
-/

namespace TileScope.Wire

open Read

/-- Bytes that all ask for another one. -/
def Ongoing (b : List UInt8) : Prop := ∀ x ∈ b, 128 ≤ x

/-- The number in the low seven bits of each byte, low bits first. -/
def sevens : List UInt8 → Nat
  | [] => 0
  | x :: b => x.toNat % 128 + 128 * sevens b

/-- The shortest varint of a number. -/
def writeVarint (n : Nat) : List UInt8 :=
  if n < 128 then [n.toUInt8] else (n % 128 + 128).toUInt8 :: writeVarint (n / 128)

variable {room : Nat} {b c r : List UInt8} {x : UInt8}

/-- No bytes ask for another one. -/
theorem Ongoing.nil : Ongoing [] := fun _ h => absurd h List.not_mem_nil

/-- Some bytes all ask for another one if the first does and the others do. -/
theorem ongoing_cons : Ongoing (x :: b) ↔ 128 ≤ x ∧ Ongoing b := List.forall_mem_cons

/-- Bytes behind others count for as many places more. -/
theorem sevens_append (b c : List UInt8) :
    sevens (b ++ c) = sevens b + 128 ^ b.length * sevens c := by
  induction b with
  | nil => simp [sevens]
  | cons x b ih =>
    rw [List.cons_append, sevens, ih, sevens, List.length_cons, Nat.pow_succ, Nat.mul_add,
      ← Nat.mul_assoc, Nat.mul_comm 128 (128 ^ b.length), Nat.add_assoc]

/-- So many bytes make a number below that power of 128. -/
theorem sevens_lt (b : List UInt8) : sevens b < 128 ^ b.length := by
  induction b with
  | nil => exact Nat.one_pos
  | cons x b ih =>
    have := Nat.mod_lt x.toNat (show 0 < 128 by omega)
    rw [sevens, List.length_cons, Nat.pow_succ]
    omega

/-! ## Reading -/

/-- A byte with the top bit ends a varint or asks for the bytes after it. -/
theorem run_varintBytes_cons (room : Nat) (x : UInt8) (b : List UInt8) :
    (varintBytes (room + 1)).run (x :: b) =
      if x < 128 then .ok (x.toNat, b)
      else match (varintBytes room).run b with
        | .error e => .error e
        | .ok (n, r) => .ok (x.toNat - 128 + 128 * n, r) := by
  show Except.map _ (if x < 128 then _ else _) = _
  split
  · rfl
  · show Except.map _ (Except.map _ (varintBytes room (.ofBytes b))) = _
    rw [run]
    cases varintBytes room (.ofBytes b) <;> rfl

/-- Bytes that ask for another one and one that does not are a form of their number. -/
theorem forms_varintBytes (hb : Ongoing b) (hx : x < 128) (hr : b.length < room) :
    (varintBytes room).Forms (b ++ [x]) (sevens (b ++ [x])) := by
  induction b generalizing room with
  | nil =>
    obtain ⟨room, rfl⟩ : ∃ k, room = k + 1 := ⟨room - 1, by simp at hr; omega⟩
    intro rest
    have hx' : x.toNat < 128 := UInt8.lt_iff_toNat_lt.1 hx
    rw [List.nil_append, List.singleton_append, run_varintBytes_cons, if_pos hx, sevens, sevens,
      Nat.mod_eq_of_lt hx', Nat.mul_zero, Nat.add_zero]
  | cons y b ih =>
    rw [List.length_cons] at hr
    obtain ⟨room, rfl⟩ : ∃ k, room = k + 1 := ⟨room - 1, by omega⟩
    obtain ⟨hy, hb⟩ := ongoing_cons.1 hb
    intro rest
    have hy' : 128 ≤ y.toNat := UInt8.le_iff_toNat_le.1 hy
    have hlt := y.toNat_lt
    rw [List.cons_append, List.cons_append, run_varintBytes_cons,
      if_neg (UInt8.not_lt.2 hy), ih hb (Nat.lt_of_succ_lt_succ hr) rest]
    show Except.ok (y.toNat - 128 + 128 * sevens (b ++ [x]), rest) = _
    rw [sevens, show y.toNat % 128 = y.toNat - 128 by omega]

/-- What was taken for a varint is bytes that ask for another one and one that does not. -/
theorem varintBytes_eq_ok {n : Nat} (h : (varintBytes room).run c = .ok (n, r)) :
    ∃ b x, c = b ++ [x] ++ r ∧ Ongoing b ∧ x < 128 ∧ b.length < room := by
  induction room generalizing c n r with
  | zero => cases h
  | succ room ih =>
    cases c with
    | nil => cases h
    | cons y c =>
      rw [run_varintBytes_cons] at h
      split at h
      · next hy =>
        simp only [Except.ok.injEq, Prod.mk.injEq] at h
        exact ⟨[], y, by rw [h.2]; rfl, .nil, hy, Nat.succ_pos _⟩
      · next hy =>
        cases hr : (varintBytes room).run c with
        | error e => simp [hr] at h
        | ok a =>
          simp only [hr, Except.ok.injEq, Prod.mk.injEq] at h
          obtain ⟨-, rfl⟩ := h
          obtain ⟨b, x, hc, hb, hx, hl⟩ := ih hr
          exact ⟨y :: b, x, by rw [hc]; rfl, ongoing_cons.2 ⟨UInt8.not_lt.1 hy, hb⟩, hx,
            Nat.succ_lt_succ hl⟩

/-- The bytes of a varint fail with one fault alone. -/
theorem varintBytes_eq_error {f : Fault} (h : (varintBytes room).run c = .error f) :
    f = .of .varint := by
  induction room generalizing c f with
  | zero => cases h; rfl
  | succ room ih =>
    cases c with
    | nil => cases h; rfl
    | cons y c =>
      rw [run_varintBytes_cons] at h
      split at h
      · simp at h
      · cases hr : (varintBytes room).run c with
        | error e =>
          simp only [hr, Except.error.injEq] at h
          exact h ▸ ih hr
        | ok a => simp [hr] at h

/-- The bytes of a varint are framed. -/
theorem framed_varintBytes (room : Nat) : (varintBytes room).Framed where
  value h := by
    obtain ⟨b, x, rfl, hb, hx, hl⟩ := varintBytes_eq_ok h
    have hf := forms_varintBytes hb hx hl
    refine ⟨b ++ [x], rfl, ?_⟩
    rw [hf _, Except.ok.injEq, Prod.mk.injEq] at h
    exact h.1 ▸ hf
  fault h hv _ _ := absurd (congrArg Fault.cause (varintBytes_eq_error h)) hv

/-- Varints are framed. -/
theorem framed_varint : Framed varint := (framed_varintBytes 10).check _

/-- A varint fails with one fault alone, also when its value is too large. -/
theorem varint_eq_error {f : Fault} (h : varint.run c = .error f) : f = .of .varint := by
  rw [varint, run_check] at h
  cases hr : (varintBytes 10).run c with
  | error e =>
    simp only [hr, Except.error.injEq] at h
    exact h ▸ varintBytes_eq_error hr
  | ok a =>
    simp only [hr] at h
    split at h
    · next hc =>
      split at hc
      · simp at hc
      · simp_all
    · simp at h

/-- **What a varint looks like.** -/
theorem forms_varint_iff {n : UInt64} :
    varint.Forms c n ↔ ∃ b x, c = b ++ [x] ∧ Ongoing b ∧ x < 128 ∧ b.length ≤ 9 ∧
      sevens c = n.toNat := by
  rw [varint, (framed_varintBytes 10).forms_check_iff]
  constructor
  · rintro ⟨m, hm, hn⟩
    obtain ⟨b, x, hc, hb, hx, hl⟩ := varintBytes_eq_ok hm.run_self
    rw [List.append_nil] at hc
    obtain rfl := hc
    obtain ⟨-, rfl, -⟩ := hm.unique (b := []) (r := []) (forms_varintBytes hb hx hl) rfl
    refine ⟨b, x, rfl, hb, hx, Nat.lt_succ_iff.1 hl, ?_⟩
    split at hn
    · next hlt =>
      rw [← Except.ok.inj hn, UInt64.toNat_ofNat', Nat.mod_eq_of_lt hlt]
    · simp at hn
  · rintro ⟨b, x, rfl, hb, hx, hl, hn⟩
    refine ⟨_, forms_varintBytes hb hx (Nat.lt_succ_iff.2 hl), ?_⟩
    rw [hn, if_pos n.toNat_lt]
    exact congrArg _ (UInt64.ofNat_toNat)

/-- Bytes that all ask for another one are no varint yet. -/
theorem run_varint_of_ongoing (h : Ongoing b) : varint.run b = .error (.of .varint) := by
  cases hr : varint.run b with
  | error f => rw [varint_eq_error hr]
  | ok a =>
    obtain ⟨c, rfl, hc⟩ := framed_varint.value hr
    obtain ⟨b, x, rfl, -, hx, -⟩ := forms_varint_iff.1 hc
    have hx' : 128 ≤ x := h x (by simp)
    exact absurd hx (UInt8.not_lt.2 hx')

/-- The bytes up to the first one that does not ask for another are the same in equal lists. -/
theorem ongoing_append_inj {b' r' : List UInt8} {x' : UInt8} (hb : Ongoing b) (hx : x < 128)
    (hb' : Ongoing b') (hx' : x' < 128) (h : b ++ x :: r = b' ++ x' :: r') :
    b = b' ∧ x = x' ∧ r = r' := by
  induction b generalizing b' with
  | nil =>
    cases b' with
    | nil =>
      cases h
      exact ⟨rfl, rfl, rfl⟩
    | cons y b' =>
      cases h
      exact absurd hx (UInt8.not_lt.2 (ongoing_cons.1 hb').1)
  | cons y b ih =>
    cases b' with
    | nil =>
      cases h
      exact absurd hx' (UInt8.not_lt.2 (ongoing_cons.1 hb).1)
    | cons y' b' =>
      rw [List.cons_append, List.cons_append, List.cons.injEq] at h
      obtain ⟨rfl, h⟩ := h
      obtain ⟨rfl, hx, hr⟩ := ih (ongoing_cons.1 hb).2 (ongoing_cons.1 hb').2 h
      exact ⟨rfl, hx, hr⟩

/-! ## Writing -/

/-- The shortest varint is bytes that ask for another one and one that does not. -/
theorem writeVarint_eq_append (n : Nat) :
    ∃ b x, writeVarint n = b ++ [x] ∧ Ongoing b ∧ x < 128 := by
  induction n using Nat.strongRecOn with
  | ind n ih =>
    rw [writeVarint]
    split
    · next hn =>
      refine ⟨[], n.toUInt8, rfl, .nil, UInt8.lt_iff_toNat_lt.2 ?_⟩
      show n % 256 < 128
      omega
    · next hn =>
      obtain ⟨b, x, he, hb, hx⟩ := ih (n / 128) (by omega)
      refine ⟨_ :: b, x, by rw [he]; rfl, ongoing_cons.2 ⟨UInt8.le_iff_toNat_le.2 ?_, hb⟩, hx⟩
      show 128 ≤ (n % 128 + 128) % 256
      omega

/-- The shortest varint of a number makes that number. -/
theorem sevens_writeVarint (n : Nat) : sevens (writeVarint n) = n := by
  induction n using Nat.strongRecOn with
  | ind n ih =>
    rw [writeVarint]
    split
    · show n % 256 % 128 + 128 * 0 = n
      omega
    · rw [sevens, ih (n / 128) (by omega)]
      show (n % 128 + 128) % 256 % 128 + 128 * (n / 128) = n
      omega

/-- The shortest varint of a number below a power of 128 has so many bytes at most. -/
theorem length_writeVarint_le (k n : Nat) (h : n < 128 ^ (k + 1)) :
    (writeVarint n).length ≤ k + 1 := by
  induction k generalizing n with
  | zero => rw [writeVarint, if_pos (by omega)]; exact Nat.le_refl _
  | succ k ih =>
    rw [writeVarint]
    split
    · exact Nat.succ_pos _
    · rw [Nat.pow_succ] at h
      exact Nat.succ_le_succ (ih _ (Nat.div_lt_of_lt_mul (by omega)))

/-- The shortest varint of a number below `2 ^ 64` is a form of it. -/
theorem forms_writeVarint {n : Nat} (h : n < 2 ^ 64) : varint.Forms (writeVarint n) n.toUInt64 := by
  obtain ⟨b, x, he, hb, hx⟩ := writeVarint_eq_append n
  have hl := length_writeVarint_le 9 n (by omega)
  rw [he, List.length_append, List.length_singleton] at hl
  refine forms_varint_iff.2 ⟨b, x, he, hb, hx, by omega, ?_⟩
  rw [sevens_writeVarint]
  exact (UInt64.toNat_ofNat_of_lt' h).symm

/-- Only numbers of 64 bits are read. -/
theorem lt_of_run_writeVarint {n : Nat} {m : UInt64}
    (h : varint.run (writeVarint n ++ b) = .ok (m, r)) : n < 2 ^ 64 := by
  obtain ⟨c, hc, hf⟩ := framed_varint.value h
  obtain ⟨d, y, rfl, hd, hy, -, hm⟩ := forms_varint_iff.1 hf
  obtain ⟨e, x, he, hongoing, hx⟩ := writeVarint_eq_append n
  rw [he, List.append_assoc, List.append_assoc] at hc
  obtain ⟨rfl, rfl, -⟩ := ongoing_append_inj hongoing hx hd hy hc
  rw [← he, sevens_writeVarint] at hm
  exact hm ▸ m.toNat_lt

end TileScope.Wire
