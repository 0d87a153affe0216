import TileScope.Proofs.Wire.Writing

/-!
# Cut values

Bytes that more bytes can make a form of are a form without its end (`Cut`). What that looks like
goes by the reader:

| reader | cut forms |
| --- | --- |
| `varint` | at most nine bytes that all ask for another one (`ongoing_of_forms_varint`) |
| a row of steps | a row and a cut step behind it (`Row.exists_cut`) |
| `skipValue` | by layout, in groups level by level (`skipCut_of_cut`, `SkipCut.cut`) |
-/

namespace TileScope.Wire

open Read

variable {α σ : Type}

/-- Bytes that lack the end of a form. -/
def Cut (p : Read α) (b : List UInt8) : Prop := ∃ s v, s ≠ [] ∧ p.Forms (b ++ s) v

/-- Bytes that lack the end of a key with a property. -/
def KeyCut (ok : Key → Prop) (b : List UInt8) : Prop :=
  ∃ s k, s ≠ [] ∧ key.Forms (b ++ s) k ∧ ok k

/-- A cut through two lists falls into the first one or into the second one. -/
theorem cut_append {b s c d : List α} (h : b ++ s = c ++ d) :
    (∃ w, w ≠ [] ∧ c = b ++ w) ∨ ∃ r, b = c ++ r ∧ d = r ++ s := by
  rcases List.append_eq_append_iff.1 h with ⟨w, hc, hw⟩ | hd
  · by_cases hnil : w = []
    · subst hnil
      exact .inr ⟨[], by rw [hc, List.append_nil, List.append_nil], hw.symm⟩
    · exact .inl ⟨w, hnil, hc⟩
  · exact .inr hd

/-- Fewer bytes can be made up to a number of them. -/
theorem exists_padding {b : List UInt8} {n : Nat} (h : b.length < n) :
    ∃ s, s ≠ [] ∧ (b ++ s).length = n := by
  have hlength : (List.replicate (n - b.length) (0 : UInt8)).length = n - b.length :=
    List.length_replicate
  refine ⟨List.replicate (n - b.length) 0, fun hnil => ?_, ?_⟩
  · rw [hnil, List.length_nil] at hlength
    omega
  · rw [List.length_append]
    omega

section Varints

variable {b : List UInt8}

/-- Bytes that ask for another one are ended by a byte; with a one the number is larger. -/
theorem exists_forms_terminated {x : UInt8} (hb : Ongoing b) (hl : b.length ≤ 9)
    (hx : x.toNat ≤ 1) : ∃ n, varint.Forms (b ++ [x]) n ∧
      n.toNat = sevens b + 128 ^ b.length * x.toNat := by
  have hpow : 128 ^ b.length ≤ 128 ^ 9 := Nat.pow_le_pow_right (by decide) hl
  have hmul : 128 ^ b.length * x.toNat ≤ 128 ^ 9 * 1 := Nat.mul_le_mul hpow hx
  have hsevens := sevens_lt b
  have hlt : sevens b + 128 ^ b.length * x.toNat < 2 ^ 64 := by omega
  have hn := UInt64.toNat_ofNat_of_lt' hlt
  have hx' : x < 128 := UInt8.lt_iff_toNat_lt.2 (Nat.lt_of_le_of_lt hx (by decide))
  have hself : sevens [x] = x.toNat := by
    rw [sevens, sevens, Nat.mod_eq_of_lt (Nat.lt_of_le_of_lt hx (by decide)), Nat.mul_zero,
      Nat.add_zero]
  refine ⟨_, forms_varint_iff.2 ⟨b, x, rfl, hb, hx', hl, ?_⟩, hn⟩
  rw [sevens_append, hself]
  exact hn.symm

/-- A varint without its end asks for another byte everywhere. -/
theorem ongoing_of_forms_varint {s : List UInt8} {n : UInt64} (h : varint.Forms (b ++ s) n)
    (hs : s ≠ []) : Ongoing b ∧ b.length ≤ 9 := by
  obtain ⟨d, x, hd, hongoing, -, hl, -⟩ := forms_varint_iff.1 h
  rw [← List.dropLast_concat_getLast hs, ← List.append_assoc] at hd
  obtain rfl := (List.append_inj' hd rfl).1
  rw [List.length_append] at hl
  exact ⟨fun y hy => hongoing y (List.mem_append_left _ hy), by omega⟩

end Varints

/-- A cut row is a row and a cut step. -/
theorem Read.Row.exists_cut {step : σ → Read σ} {s u : σ} {b w : List UInt8}
    (h : Row step s (b ++ w) u) (hw : w ≠ []) :
    ∃ c r t, b = c ++ r ∧ Row step s c t ∧ Cut (step t) r := by
  generalize hl : b ++ w = l at h
  induction h generalizing b with
  | nil s => exact absurd (List.append_eq_nil_iff.1 hl).2 hw
  | @cons s t u c d first more ih =>
    rcases cut_append hl with ⟨v, hv, rfl⟩ | ⟨r, rfl, rfl⟩
    · exact ⟨[], b, s, rfl, .nil s, v, t, hv, first⟩
    · obtain ⟨c', r', t', rfl, hrow, hcut⟩ := ih rfl
      exact ⟨c ++ c', r', t', (List.append_assoc ..).symm, .cons first hrow, hcut⟩

/-! ## Skipped values -/

/-- What is skipped of a value whose end is missing: at most `depth` levels of groups deep, behind
a key. -/
inductive SkipCut : Nat → Key → List UInt8 → Prop where
  | varint {depth tag : Nat} {b : List UInt8} (hb : Ongoing b) (hl : b.length ≤ 9) :
    SkipCut (depth + 1) ⟨tag, .varint⟩ b
  | fixed64 {depth tag : Nat} {b : List UInt8} (hl : b.length < 8) :
    SkipCut (depth + 1) ⟨tag, .fixed64⟩ b
  | fixed32 {depth tag : Nat} {b : List UInt8} (hl : b.length < 4) :
    SkipCut (depth + 1) ⟨tag, .fixed32⟩ b
  /-- The end of the length is missing. -/
  | length {depth tag : Nat} {b : List UInt8} (hb : Ongoing b) (hl : b.length ≤ 9) :
    SkipCut (depth + 1) ⟨tag, .delimited⟩ b
  /-- There are fewer bytes than the length says. -/
  | bytes {depth tag : Nat} {l b : List UInt8} {n : UInt64} (hl : varint.Forms l n)
    (hb : b.length < n.toNat) : SkipCut (depth + 1) ⟨tag, .delimited⟩ (l ++ b)
  /-- A group is cut in the key that ends it, or in that of a field one level down. -/
  | groupKey {depth tag : Nat} {c b : List UInt8} (hc : Row (skipField depth) () c ())
    (hb : KeyCut (fun k => k = ⟨tag, .endGroup⟩ ∨ (depth ≠ 0 ∧ k.wire ≠ .endGroup)) b) :
    SkipCut (depth + 1) ⟨tag, .startGroup⟩ (c ++ b)
  /-- A group is cut in the value of a field one level down. -/
  | groupField {depth tag : Nat} {c e b : List UInt8} {k : Key}
    (hc : Row (skipField depth) () c ()) (he : key.Forms e k) (hb : SkipCut depth k b) :
    SkipCut (depth + 1) ⟨tag, .startGroup⟩ (c ++ (e ++ b))

section Skipping

variable {depth : Nat} {k : Key} {b c : List UInt8}

/-- The number of a field that was read has 29 bits and is not zero. -/
theorem tag_of_forms_key (h : key.Forms c k) : 0 < k.tag ∧ k.tag < 2 ^ 29 := by
  obtain ⟨n, -, hn⟩ := framed_varint.forms_check_iff.1 h
  split at hn
  · cases hn
  · next hlt =>
    split at hn
    · cases hn
    · split at hn
      · cases hn
      · next hzero =>
        cases hn
        have hn32 : n.toNat < 2 ^ 32 := Nat.not_le.1 hlt
        simp only
        omega

/-- Skipping a value needs a level, and a key that does not end a group. -/
theorem of_forms_skipValue {u : Unit} (h : Forms (skipValue depth k) b u) :
    depth ≠ 0 ∧ k.wire ≠ .endGroup := by
  refine ⟨?_, fun hk => not_forms_skipValue_end hk u h⟩
  rintro rfl
  have hrun := h.run_self
  rw [run_skipValue_zero] at hrun
  cases hrun

/-- Otherwise there is a value to skip. -/
theorem exists_forms_skipValue (hdepth : depth ≠ 0) (hw : k.wire ≠ .endGroup)
    (htag : 0 < k.tag ∧ k.tag < 2 ^ 29) : ∃ v, Forms (skipValue depth k) v () := by
  obtain ⟨depth, rfl⟩ := Nat.exists_eq_succ_of_ne_zero hdepth
  obtain ⟨tag, wire⟩ := k
  show ∃ v, Forms (skipValue (depth + 1) _) v ()
  rw [skipValue_succ]
  cases wire with
  | varint => exact ⟨_, (forms_writeVarint (n := 0) (by decide)).map fun _ => ()⟩
  | fixed64 => exact ⟨_, (forms_writeFixed (n := 7) (v := 0) (by decide)).map fun _ => ()⟩
  | delimited => exact ⟨_, (forms_writeBlock (by decide : [].length < 2 ^ 64)).map fun _ => ()⟩
  | startGroup => exact ⟨_, forms_group_end (forms_writeKey tag .endGroup htag.1 htag.2)⟩
  | endGroup => exact absurd rfl hw
  | fixed32 => exact ⟨_, (forms_writeFixed (n := 3) (v := 0) (by decide)).map fun _ => ()⟩

/-- The value that is left of a skip, cut, is one of the cases. -/
theorem skipCut_of_cut (h : Cut (skipValue depth k : Read Unit) b) : SkipCut depth k b := by
  -- By the levels left; within a level by the layout, and by the part into which the cut falls.
  induction depth generalizing k b with
  | zero =>
    obtain ⟨s, u, -, h⟩ := h
    exact absurd rfl (of_forms_skipValue h).1
  | succ depth ih =>
    obtain ⟨tag, wire⟩ := k
    obtain ⟨s, u, hs, h⟩ := h
    rw [skipValue_succ] at h
    have hpos := List.length_pos_iff.2 hs
    cases wire with
    | varint =>
      have h : (varint.map fun _ => ()).Forms (b ++ s) u := h
      obtain ⟨n, hn, -⟩ := framed_varint.forms_map_iff.1 h
      obtain ⟨hb, hl⟩ := ongoing_of_forms_varint hn hs
      exact .varint hb hl
    | fixed64 =>
      have h : ((fixed 7).map fun _ => ()).Forms (b ++ s) u := h
      obtain ⟨n, hn, -⟩ := (framed_fixed 7).forms_map_iff.1 h
      have hlength := (forms_fixed_iff.1 hn).1
      rw [List.length_append] at hlength
      exact .fixed64 (by omega)
    | fixed32 =>
      have h : ((fixed 3).map fun _ => ()).Forms (b ++ s) u := h
      obtain ⟨n, hn, -⟩ := (framed_fixed 3).forms_map_iff.1 h
      have hlength := (forms_fixed_iff.1 hn).1
      rw [List.length_append] at hlength
      exact .fixed32 (by omega)
    | delimited =>
      have h : (delimited.map fun _ => ()).Forms (b ++ s) u := h
      obtain ⟨v, hv, -⟩ := framed_delimited.forms_map_iff.1 h
      obtain ⟨l, n, hl, hn, hlength⟩ := forms_delimited_iff.1 hv
      rcases cut_append hl with ⟨w, hw, rfl⟩ | ⟨r, rfl, rfl⟩
      · obtain ⟨hb, hl⟩ := ongoing_of_forms_varint hn hw
        exact .length hb hl
      · rw [List.length_append] at hlength
        exact .bytes hn (by omega)
    | startGroup =>
      have h : (group depth tag).Forms (b ++ s) u := h
      obtain ⟨c, e, hc, hrow, he⟩ := forms_group_iff.1 h
      rcases cut_append hc with ⟨w, hw, rfl⟩ | ⟨r, rfl, rfl⟩
      · -- the cut is in front of the key that ends the group
        obtain ⟨c, r, t, rfl, hfront, s, u, hs, hcut⟩ := hrow.exists_cut hw
        obtain ⟨e, d, j, hd, hj, hvalue⟩ :=
          (framed_key.forms_andThen_iff (framed_skipValue depth)).1 hcut
        obtain ⟨hdepth, hwire⟩ := of_forms_skipValue hvalue
        rcases cut_append hd with ⟨w, hw, rfl⟩ | ⟨r, rfl, rfl⟩
        · exact .groupKey hfront ⟨w, j, hw, hj, .inr ⟨hdepth, hwire⟩⟩
        · exact .groupField hfront hj (ih ⟨s, (), hs, hvalue⟩)
      · exact .groupKey hrow ⟨s, _, hs, he, .inl rfl⟩
    | endGroup =>
      have hrun := h.run_self
      cases hrun

/-- Every case is a cut value: some bytes end it. -/
theorem SkipCut.cut (h : SkipCut depth k b) (htag : 0 < k.tag ∧ k.tag < 2 ^ 29) :
    Cut (skipValue depth k : Read Unit) b := by
  -- Each case is ended by the bytes that it lacks; a cut group also by the key that ends it.
  induction h with
  | varint hb hl =>
    rw [skipValue_succ]
    obtain ⟨n, hn, -⟩ := exists_forms_terminated (x := 0) hb hl (by decide)
    exact ⟨[0], (), List.cons_ne_nil _ _, hn.map fun _ => ()⟩
  | fixed64 hl =>
    rw [skipValue_succ]
    obtain ⟨s, hs, hlength⟩ := exists_padding hl
    exact ⟨s, (), hs, (forms_fixed hlength).map fun _ => ()⟩
  | fixed32 hl =>
    rw [skipValue_succ]
    obtain ⟨s, hs, hlength⟩ := exists_padding hl
    exact ⟨s, (), hs, (forms_fixed hlength).map fun _ => ()⟩
  | @length depth tag b hb hl =>
    rw [skipValue_succ]
    obtain ⟨n, hn, -⟩ := exists_forms_terminated (x := 0) hb hl (by decide)
    have hv := forms_delimited hn (List.length_replicate (n := n.toNat) (a := (0 : UInt8)))
    rw [List.append_assoc] at hv
    exact ⟨_, (), List.cons_ne_nil _ _, hv.map fun _ => ()⟩
  | bytes hl hb =>
    rw [skipValue_succ]
    obtain ⟨s, hs, hlength⟩ := exists_padding hb
    have hv := forms_delimited hl hlength
    rw [← List.append_assoc] at hv
    exact ⟨s, (), hs, hv.map fun _ => ()⟩
  | @groupKey depth tag c b hc hb =>
    rw [skipValue_succ]
    obtain ⟨s, j, hs, hj, rfl | ⟨hdepth, hwire⟩⟩ := hb
    · refine ⟨s, (), hs, ?_⟩
      rw [List.append_assoc]
      exact forms_group_iff.2 ⟨c, b ++ s, rfl, hc, hj⟩
    · obtain ⟨v, hv⟩ := exists_forms_skipValue hdepth hwire (tag_of_forms_key hj)
      have hend := forms_writeKey tag .endGroup htag.1 htag.2
      refine ⟨s ++ (v ++ writeKey tag .endGroup), (), List.append_ne_nil_of_left_ne_nil hs _, ?_⟩
      have hrow : Row (skipField depth) () (c ++ (b ++ s ++ v)) () :=
        hc.append (.single (hj.andThen hv))
      refine forms_group_iff.2 ⟨_, writeKey tag .endGroup, ?_, hrow, hend⟩
      simp only [List.append_assoc]
  | @groupField depth tag c e b j hc he hb ih =>
    rw [skipValue_succ]
    obtain ⟨s, u, hs, hv⟩ := ih (tag_of_forms_key he)
    have hend := forms_writeKey tag .endGroup htag.1 htag.2
    refine ⟨s ++ writeKey tag .endGroup, (), List.append_ne_nil_of_left_ne_nil hs _, ?_⟩
    have hrow : Row (skipField depth) () (c ++ (e ++ (b ++ s))) () :=
      hc.append (.single (he.andThen hv))
    refine forms_group_iff.2 ⟨_, writeKey tag .endGroup, ?_, hrow, hend⟩
    simp only [List.append_assoc]

end Skipping

end TileScope.Wire
