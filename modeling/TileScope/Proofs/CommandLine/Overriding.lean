import Mathlib
import TileScope.Proofs.CommandLine.Occurrence

/-!
# What the options of a row leave set

Options are set one after the other. Of the two switches for the tiles around each takes back the
other, so that the last one is left; any other option stays set, and comes once if it may not come
again. `Kept` says so of the options so far; each option that is set keeps it (`Kept.set`), and so
does a whole row (`kept_of_setRow`).
-/

namespace TileScope.CommandLine

open Reading (takenBack?)

/-- What is left set by the options of a row. -/
structure Kept (repeated : List OptionName) (row : List (OptionName × String))
    (given : List Given) : Prop where
  values : ∀ o : OptionName, o.switch? = none →
    (given.filter (·.option = o)).map .ok = (valuesIn o row).map (Given.ofValue o)
  once : ∀ o : OptionName, o.switch? = none → o ∉ repeated → (valuesIn o row).length ≤ 1
  switches : given.filterMap (·.option.switch?) = (row.filterMap (·.1.switch?)).getLast?.toList

variable {repeated : List OptionName} {row : List (OptionName × String)} {o : OptionName}
  {value : String} {g : Given} {r r' : Reading}

/-- What an option gives is of that option. -/
theorem option_of_ofValue (h : Given.ofValue o value = .ok g) : g.option = o := by
  cases o with
  | tile =>
    rw [Given.ofValue] at h
    split at h <;> cases h
    rfl
  | id | timeout =>
    rw [Given.ofValue] at h
    cases hn : Text.word64? value <;> rw [hn] at h <;> cases h
    rfl
  | archive =>
    rw [Given.ofValue] at h
    split at h <;> cases h
    rfl
  | help | version => cases h
  | _ => cases h; rfl

/-- An option that is no switch takes none back. -/
theorem takenBack?_eq_none (h : o.switch? = none) : takenBack? o = none := by
  cases o <;> first | rfl | cases h

/-- What a switch takes back is the other switch. -/
theorem exists_takenBack? (h : o.switch? ≠ none) :
    ∃ other, takenBack? o = some other ∧
      ∀ o' : OptionName, o'.switch? ≠ none ↔ o' = o ∨ o' = other := by
  cases o with
  | neighbors => exact ⟨.noNeighbors, rfl, by intro o'; cases o' <;> decide⟩
  | noNeighbors => exact ⟨.neighbors, rfl, by intro o'; cases o' <;> decide⟩
  | _ => exact absurd rfl h

/-- The last option of a row has its value behind the others. -/
theorem valuesIn_concat (o o' : OptionName) (value : String) (row : List (OptionName × String)) :
    valuesIn o (row ++ [(o', value)]) = valuesIn o row ++ if o' = o then [value] else [] := by
  rw [valuesIn_append, valuesIn_cons]
  split <;> rfl

/-- An option has set something if it has a value in the row. -/
theorem Kept.filter_eq_nil_iff {given : List Given} (hkept : Kept repeated row given)
    (hswitch : o.switch? = none) :
    given.filter (·.option = o) = [] ↔ valuesIn o row = [] := by
  rw [← List.map_eq_nil_iff, hkept.values o hswitch, List.map_eq_nil_iff]

/-- An option that is no switch is set beside those before it. -/
theorem Kept.set_other (hkept : Kept repeated row r.given) (hswitch : o.switch? = none)
    (h : r.set repeated o value = .ok r') : Kept repeated (row ++ [(o, value)]) r'.given := by
  obtain ⟨honce, g, hg, rfl⟩ := Reading.set_eq_ok_iff.1 h
  obtain rfl := option_of_ofValue hg
  have hfilter : r.given.filter (fun h => some h.option ≠ takenBack? g.option) = r.given := by
    rw [takenBack?_eq_none hswitch]
    exact List.filter_eq_self.2 fun _ _ => rfl
  dsimp only
  rw [hfilter]
  refine ⟨fun o' ho' => ?_, fun o' ho' hrepeated => ?_, ?_⟩
  · rw [List.filter_append, List.map_append, hkept.values o' ho', valuesIn_concat, List.map_append]
    by_cases hgo : g.option = o'
    · simp [← hgo, hg]
    · simp [hgo]
  · rw [valuesIn_concat]
    split
    · next hgo =>
      -- Had it come before, what it set would still be there.
      obtain rfl := hgo
      have hfirst : r.given.filter (·.option = g.option) = [] :=
        List.filter_eq_nil_iff.2 fun x hx hxo =>
          hrepeated (honce (List.any_eq_true.2 ⟨x, hx, hxo⟩))
      rw [(hkept.filter_eq_nil_iff hswitch).1 hfirst]
      rfl
    · simpa using hkept.once o' ho' hrepeated
  · rw [List.filterMap_append, List.filterMap_append, hkept.switches]
    simp [hswitch]

/-- A switch takes the place of the switches before it. -/
theorem Kept.set_switch (hkept : Kept repeated row r.given) (hswitch : o.switch? ≠ none)
    (hrepeated : o ∉ repeated) (h : r.set repeated o value = .ok r') :
    Kept repeated (row ++ [(o, value)]) r'.given := by
  obtain ⟨honce, g, hg, rfl⟩ := Reading.set_eq_ok_iff.1 h
  obtain rfl := option_of_ofValue hg
  obtain ⟨other, hother, hswitches⟩ := exists_takenBack? hswitch
  have hvalues (o' : OptionName) (ho' : o'.switch? = none) :
      valuesIn o' (row ++ [(g.option, value)]) = valuesIn o' row := by
    have hne : g.option ≠ o' := fun h => hswitch (h ▸ ho')
    rw [valuesIn_concat, if_neg hne, List.append_nil]
  -- A switch has no value, takes back the other one, and was not set itself (`honce`).
  refine ⟨fun o' ho' => ?_, fun o' ho' hrepeated' => ?_, ?_⟩
  · have hne : o' ≠ g.option ∧ o' ≠ other :=
      not_or.1 (mt (hswitches o').2 (not_not_intro ho'))
    have hfilter : ∀ x ∈ r.given, (decide (x.option = o') && some x.option ≠ some other)
        = decide (x.option = o') := by
      intro x _
      by_cases hx : x.option = o' <;> simp [hx, hne.2]
    rw [hvalues o' ho', ← hkept.values o' ho', hother, List.filter_append, List.filter_filter,
      List.filter_congr hfilter]
    simp [hne.1.symm]
  · rw [hvalues o' ho']
    exact hkept.once o' ho' hrepeated'
  · have hnone : (r.given.filter fun h => some h.option ≠ takenBack? g.option).filterMap
        (·.option.switch?) = [] := by
      refine List.filterMap_eq_nil_iff.2 fun x hx => ?_
      obtain ⟨hx, hne⟩ := List.mem_filter.1 hx
      rw [hother] at hne
      have hfirst : x.option ≠ g.option := fun hxo =>
        hrepeated (honce (List.any_eq_true.2 ⟨x, hx, decide_eq_true hxo⟩))
      have hothers : ¬(x.option = g.option ∨ x.option = other) :=
        not_or.2 ⟨hfirst, fun h => of_decide_eq_true hne (congrArg some h)⟩
      exact Decidable.not_not.1 (mt (hswitches x.option).1 hothers)
    obtain ⟨b, hb⟩ := Option.ne_none_iff_exists'.1 hswitch
    dsimp only
    rw [List.filterMap_append, hnone, List.filterMap_append]
    simp [hb]

/-- **Each option that is set keeps what a row leaves set.** -/
theorem Kept.set (hkept : Kept repeated row r.given) (hrepeated : ∀ o ∈ repeated, o.switch? = none)
    (h : r.set repeated o value = .ok r') : Kept repeated (row ++ [(o, value)]) r'.given := by
  by_cases hswitch : o.switch? = none
  · exact hkept.set_other hswitch h
  · exact hkept.set_switch hswitch (fun ho => hswitch (hrepeated o ho)) h

/-- **What a whole row leaves set.** -/
theorem kept_of_setRow (hrepeated : ∀ o ∈ repeated, o.switch? = none)
    (h : ({} : Reading).setRow repeated row = .ok r) : Kept repeated row r.given := by
  have hrun {front row : List (OptionName × String)} {s : Reading}
      (hkept : Kept repeated front s.given) (h : s.setRow repeated row = .ok r) :
      Kept repeated (front ++ row) r.given := by
    induction row generalizing front s with
    | nil =>
      obtain rfl := Except.ok.inj h
      rwa [List.append_nil]
    | cons e row ih =>
      obtain ⟨next, hset, hrow⟩ := Reading.setRow_cons.1 h
      rw [List.append_cons]
      exact ih (hkept.set hrepeated hset) hrow
  have hempty : Kept repeated [] ({} : Reading).given :=
    ⟨fun _ _ => rfl, fun _ _ _ => Nat.zero_le 1, rfl⟩
  exact hrun hempty h

end TileScope.CommandLine
