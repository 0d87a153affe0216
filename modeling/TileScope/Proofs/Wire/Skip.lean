import TileScope.Proofs.Wire.Field

/-!
# Skipped fields

A field that a message does not know is skipped, a group with everything in it. The forms of a
skipped group are a row of skipped fields, one level down, and the key that ends the group
(`forms_group_iff`). Skipping goes down a level for every group, so its lemmas go by the depth.
-/

namespace TileScope.Wire

open Read

variable {depth tag : Nat} {k : Key} {b c r : List UInt8}

/-- Skips the fields of a group and the key that ends it. -/
def group (depth tag : Nat) : Read Unit := fun i =>
  skipGroup depth tag i.length i i.length_le_self

/-- Skips a field. -/
def skipField (depth : Nat) (_ : Unit) : Read Unit := key.andThen (skipValue depth)

/-- The bound of a group is for its type alone. -/
theorem map_skipGroup (bound bound' : Nat) (i : Input) (h : i.length ≤ bound)
    (h' : i.length ≤ bound') :
    (skipGroup depth tag bound i h).map (fun a => (a.value, a.rest.bytes)) =
      (skipGroup depth tag bound' i h').map fun a => (a.value, a.rest.bytes) := by
  induction hn : i.length using Nat.strongRecOn generalizing i with
  | ind n ih =>
    rw [skipGroup.eq_def depth tag bound, skipGroup.eq_def depth tag bound']
    cases key i with
    | error e => rfl
    | ok k =>
      simp only
      split
      · split <;> rfl
      · cases skipValue depth k.value k.rest with
        | error e => rfl
        | ok v => exact ih v.rest.length (hn ▸ Nat.lt_trans v.short k.short) v.rest _ _ rfl

/-- A group is skipped field by field up to a key that ends it, with its own number. -/
theorem run_group (depth tag : Nat) (b : List UInt8) :
    (group depth tag).run b = match key.run b with
      | .error e => .error e
      | .ok (k, r) =>
        if k.wire = .endGroup then
          if k.tag = tag then .ok ((), r) else .error (.of .strayEnd)
        else match run (skipValue depth k) r with
          | .error e => .error e
          | .ok (_, r) => (group depth tag).run r := by
  rw [run, group, skipGroup, run]
  cases key (.ofBytes b) with
  | error e => rfl
  | ok k =>
    obtain ⟨k, ⟨r, n, rfl⟩, hr⟩ := k
    show Except.map _ (if k.wire = .endGroup then _ else _) = if k.wire = .endGroup then _ else _
    split
    · show Except.map _ (if k.tag = tag then _ else _) = if k.tag = tag then _ else _
      split <;> rfl
    · simp only [run, Input.ofBytes]
      cases skipValue depth k ⟨r, r.length, rfl⟩ with
      | error e => rfl
      | ok v =>
        obtain ⟨_, ⟨r', n, rfl⟩, hr'⟩ := v
        exact map_skipGroup _ _ _ _ _

/-! ## Skipping by the layout -/

/-- No value is skipped when no level is left. -/
theorem run_skipValue_zero (k : Key) (b : List UInt8) :
    run (skipValue 0 k) b = .error (.of .depth) := by
  rw [run, skipValue]
  rfl

/-- What skipping does with a value of a layout, one level above the depth. -/
def skipLayout (depth tag : Nat) : WireType → Read Unit
  | .varint => varint.map fun _ => ()
  | .fixed64 => (fixed 7).map fun _ => ()
  | .fixed32 => (fixed 3).map fun _ => ()
  | .delimited => delimited.map fun _ => ()
  | .startGroup => group depth tag
  | .endGroup => fail .strayEnd

/-- With a level left, the layout says how a value is skipped. -/
theorem skipValue_succ (depth : Nat) (k : Key) :
    (skipValue (depth + 1) k : Read Unit) = skipLayout depth k.tag k.wire := by
  funext i
  rw [skipValue]
  cases k.wire <;> rfl

/-- No value follows the key that ends a group. -/
theorem not_forms_skipValue_end (hk : k.wire = .endGroup) (u : Unit) :
    ¬ Forms (skipValue depth k) b u := by
  intro h
  cases depth with
  | zero => exact absurd (run_skipValue_zero k b ▸ h.run_self) (by simp)
  | succ depth =>
    rw [skipValue_succ, hk] at h
    exact absurd h.run_self (by simp [skipLayout, run_fail])

/-! ## Groups -/

/-- A key that ends a group ends this one, or strays. -/
theorem run_group_end (h : key.Forms c k) (hw : k.wire = .endGroup) (r : List UInt8) :
    (group depth tag).run (c ++ r) =
      if k.tag = tag then .ok ((), r) else .error (.of .strayEnd) := by
  rw [run_group, h r]
  exact if_pos hw

/-- A field in front of a group is skipped first. -/
theorem run_group_field (h : key.Forms c k) (hw : k.wire ≠ .endGroup) (r : List UInt8) :
    (group depth tag).run (c ++ r) = match run (skipValue depth k) r with
      | .error e => .error e
      | .ok (_, r) => (group depth tag).run r := by
  rw [run_group, h r]
  exact if_neg hw

/-- The key that ends a group is a form of the empty group. -/
theorem forms_group_end (h : key.Forms c ⟨tag, .endGroup⟩) : (group depth tag).Forms c () :=
  fun rest => by rw [run_group_end h rfl, if_pos rfl]

/-- Fields and the key that ends the group are a form of it. -/
theorem forms_group_of_row (h : ∀ k, Framed (skipValue depth k)) {s t : Unit}
    (hrow : Row (skipField depth) s b t) (he : key.Forms c ⟨tag, .endGroup⟩) :
    (group depth tag).Forms (b ++ c) () := by
  induction hrow with
  | nil => exact forms_group_end he
  | cons first _ ih =>
    obtain ⟨c, d, k, rfl, hc, hd⟩ := (framed_key.forms_andThen_iff h).1 first
    have hw : k.wire ≠ .endGroup := fun hw => not_forms_skipValue_end hw () hd
    intro rest
    rw [List.append_assoc, List.append_assoc, List.append_assoc, run_group_field hc hw, hd]
    exact (congrArg _ (List.append_assoc ..).symm).trans (ih rest)

/-- What was taken for a group is a row of fields and the key that ends it. -/
theorem group_eq_ok {u : Unit} (h : ∀ k, Framed (skipValue depth k))
    (hr : (group depth tag).run b = .ok (u, r)) :
    ∃ c e, b = c ++ e ++ r ∧ Row (skipField depth) () c () ∧ key.Forms e ⟨tag, .endGroup⟩ := by
  induction hn : b.length using Nat.strongRecOn generalizing b with
  | ind n ih =>
    cases hk : key.run b with
    | error e =>
      rw [run_group, hk] at hr
      cases hr
    | ok a =>
      obtain ⟨c, rfl, hc⟩ := framed_key.value hk
      by_cases hw : a.1.wire = .endGroup
      · rw [run_group_end hc hw] at hr
        split at hr
        · next ht =>
          simp only [Except.ok.injEq, Prod.mk.injEq] at hr
          exact ⟨[], c, by rw [hr.2]; rfl, .nil (), by rw [← ht, ← hw]; exact hc⟩
        · cases hr
      · rw [run_group_field hc hw] at hr
        cases hv : run (skipValue depth a.1) a.2 with
        | error e =>
          rw [hv] at hr
          cases hr
        | ok v =>
          rw [hv] at hr
          have hlt := length_lt_of_run hk
          have hlt' := length_lt_of_run hv
          obtain ⟨d, hd, hdv⟩ := (h a.1).value hv
          obtain ⟨g, e, hg, hrow, he⟩ := ih v.2.length (by omega) hr rfl
          refine ⟨c ++ d ++ g, e, ?_, .cons (hc.andThen hdv) hrow, he⟩
          rw [hd, hg]
          simp only [List.append_assoc]

/-- Groups are framed, if the values in them are. -/
theorem framed_group (h : ∀ k, Framed (skipValue depth k)) (tag : Nat) :
    (group depth tag).Framed where
  value hr := by
    obtain ⟨c, e, rfl, hrow, he⟩ := group_eq_ok h hr
    exact ⟨c ++ e, rfl, forms_group_of_row h hrow he⟩
  fault {b f} hr hv hu rest := by
    -- Field by field, by what is left of the bytes.
    induction hn : b.length using Nat.strongRecOn generalizing b with
    | ind n ih =>
      cases hk : key.run b with
      | error e =>
        rw [run_group, hk] at hr
        obtain rfl := Except.error.inj hr
        rw [run_group, framed_key.fault hk hv hu rest]
      | ok a =>
        obtain ⟨c, rfl, hc⟩ := framed_key.value hk
        by_cases hw : a.1.wire = .endGroup
        · rw [run_group_end hc hw] at hr
          rw [List.append_assoc, run_group_end hc hw]
          split at hr
          · cases hr
          · next ht => rw [if_neg ht, hr]
        · rw [run_group_field hc hw] at hr
          rw [List.append_assoc, run_group_field hc hw]
          cases hs : run (skipValue depth a.1) a.2 with
          | error e =>
            rw [hs] at hr
            obtain rfl := Except.error.inj hr
            rw [(h a.1).fault hs hv hu rest]
          | ok v =>
            rw [hs] at hr
            have hlt := length_lt_of_run hk
            have hlt' := length_lt_of_run hs
            obtain ⟨d, hd, hdv⟩ := (h a.1).value hs
            rw [hd, List.append_assoc, hdv (v.2 ++ rest)]
            exact ih v.2.length (by omega) hr rfl

/-- Skipped values are framed, whatever the depth: by induction on it. -/
theorem framed_skipValue (depth : Nat) (k : Key) : Framed (skipValue depth k) := by
  induction depth generalizing k with
  | zero =>
    exact {
      value := fun h => by rw [run_skipValue_zero] at h; cases h
      fault := fun h _ _ _ => by rw [run_skipValue_zero] at h ⊢; exact h }
  | succ depth ih =>
    rw [skipValue_succ]
    cases k.wire with
    | varint => exact framed_varint.map fun _ => ()
    | fixed64 => exact (framed_fixed 7).map fun _ => ()
    | fixed32 => exact (framed_fixed 3).map fun _ => ()
    | delimited => exact framed_delimited.map fun _ => ()
    | startGroup => exact framed_group ih k.tag
    | endGroup => exact framed_fail _

/-- **What a skipped group looks like:** a row of fields, and the key that ends it. -/
theorem forms_group_iff {u : Unit} :
    (group depth tag).Forms b u ↔
      ∃ c e, b = c ++ e ∧ Row (skipField depth) () c () ∧ key.Forms e ⟨tag, .endGroup⟩ := by
  constructor
  · intro h
    obtain ⟨c, e, hb, hrow, he⟩ := group_eq_ok (framed_skipValue depth) h.run_self
    exact ⟨c, e, by rw [hb, List.append_nil], hrow, he⟩
  · rintro ⟨c, e, rfl, hrow, he⟩
    exact forms_group_of_row (framed_skipValue depth) hrow he

end TileScope.Wire
