import TileScope.Proofs.CommandLine.Spelling
import TileScope.Proofs.Text.Pieces

/-!
# Where options stand in an argument list

What an argument list says about an option can be seen at any place of it, without a reader: a value
stands behind its option (`valuesOf`), and the switches for the tiles around stand where they are
(`switchOf?`). In an argument list that spells a row, these are the values and the switches of the
row (`Spelled.valuesOf_eq`, `Spelled.filterMap_switch`), because a value of its own never looks like
an option.
-/

namespace TileScope.CommandLine

/-- The value that an argument gives to an option: the argument behind it or what is attached. -/
def OptionName.valueAt? (o : OptionName) (argument : String) (next : Option String) :
    Option String :=
  if argument = o.flag then next
  else ((o.flag ++ "=").toList.isPrefixOf? argument.toList).map String.ofList

/-- The values that stand behind an option in an argument list, in order. -/
def valuesOf (o : OptionName) : List String → List String
  | [] => []
  | a :: rest => (o.valueAt? a rest.head?).toList ++ valuesOf o rest

/-- The values of an option in a row. -/
def valuesIn (o : OptionName) (row : List (OptionName × String)) : List String :=
  row.filterMap fun e => if e.1 = o then some e.2 else none

/-- What an argument says about the tiles around. -/
def switchOf? (argument : String) : Option Bool :=
  if argument = "--neighbors" then some true
  else if argument = "--no-neighbors" then some false else none

/-- What the last switch of an argument list says. -/
def lastSwitch (argv : List String) : Option Bool := (argv.filterMap switchOf?).getLast?

/-- What an option says about the tiles around. -/
def OptionName.switch? : OptionName → Option Bool
  | neighbors => some true
  | noNeighbors => some false
  | _ => none

/-! ## Arguments -/

section Arguments

variable {o o' : OptionName} {a value value' : String}

/-- An option is written with two dashes in front. -/
theorem toList_flag (o : OptionName) : o.flag.toList = '-' :: '-' :: o.spelling :=
  String.toList_ofList

/-- A value is attached behind an equals sign. -/
theorem toList_attached (o : OptionName) (value : String) :
    (o.flag ++ "=" ++ value).toList = ('-' :: '-' :: o.spelling) ++ '=' :: value.toList := by
  rw [String.toList_append, String.toList_append, toList_flag, List.append_assoc]
  rfl

/-- No option has an equals sign in it. -/
theorem mark_notMem (o : OptionName) : '=' ∉ '-' :: '-' :: o.spelling := by
  cases o <;> decide

/-- Different options are spelled differently. -/
theorem spelling_injective (h : o.spelling = o'.spelling) : o = o' := by
  -- An option is found by its spelling, so that no two are compared.
  have hfound : ∀ o : OptionName, [.tile, .id, .name, .layer, .neighbors, .noNeighbors, .archive,
      .service, .timeout, .json, .all, .verbose, .help, .version].find?
        (OptionName.spelling · = o.spelling) = some o := by
    intro o
    cases o <;> rfl
  have hboth := hfound o
  rw [h, hfound o'] at hboth
  exact (Option.some.inj hboth).symm

/-- Different options are written differently. -/
theorem flag_inj : o.flag = o'.flag ↔ o = o' := by
  refine ⟨fun h => spelling_injective ?_, congrArg _⟩
  have := congrArg String.toList h
  rw [toList_flag, toList_flag] at this
  exact (List.cons.inj (List.cons.inj this).2).2

/-- An option without a value is not one with a value attached. -/
theorem flag_ne_attached : o.flag ≠ o'.flag ++ "=" ++ value := by
  intro h
  have := congrArg String.toList h
  rw [toList_flag, toList_attached] at this
  exact mark_notMem o (this ▸ List.mem_append_right _ List.mem_cons_self)

/-- An argument with a value attached tells the option and the value. -/
theorem attached_inj : o.flag ++ "=" ++ value = o'.flag ++ "=" ++ value' ↔
    o = o' ∧ value = value' := by
  constructor
  · intro h
    have hlists := congrArg String.toList h
    rw [toList_attached, toList_attached] at hlists
    -- The option ends in front of the first mark.
    have hpieces := congrArg (Text.pieces '=') hlists
    rw [Text.pieces_append (mark_notMem o), Text.pieces_append (mark_notMem o')] at hpieces
    obtain rfl := spelling_injective (List.cons.inj (List.cons.inj (List.cons.inj hpieces).1).2).2
    exact ⟨rfl, String.toList_inj.1 (List.cons.inj (List.append_cancel_left hlists)).2⟩
  · rintro ⟨rfl, rfl⟩
    rfl

/-- The argument has two dashes and something behind them. -/
def IsLong (a : String) : Prop := ∃ c rest, a.toList = '-' :: '-' :: c :: rest

/-- An option is a long argument. -/
theorem isLong_flag (o : OptionName) : IsLong o.flag := by
  cases o <;> exact ⟨_, _, toList_flag _⟩

/-- An option with a value attached is a long argument. -/
theorem isLong_attached (o : OptionName) (value : String) : IsLong (o.flag ++ "=" ++ value) := by
  obtain ⟨c, rest, h⟩ := isLong_flag o
  rw [IsLong, String.toList_append, String.toList_append, h]
  exact ⟨_, _, rfl⟩

/-- Two dashes alone are not a long argument. -/
theorem not_isLong_dashes : ¬IsLong "--" := by
  rintro ⟨c, rest, h⟩
  have := congrArg List.length h
  simp at this

/-- A word is not a long argument. -/
theorem IsWord.not_isLong (h : IsWord a) : ¬IsLong a := by
  rintro ⟨c, rest, hlist⟩
  rcases h with rfl | h
  · cases hlist
  · exact h (by rw [hlist]; rfl)

/-- Letters behind one dash are not a long argument. -/
theorem not_isLong_letters {letters : List Char} {os : List OptionName}
    (h : os.map OptionName.letter? = letters.map some) :
    ¬IsLong (String.ofList ('-' :: letters)) := by
  rintro ⟨c, rest, hlist⟩
  rw [String.toList_ofList] at hlist
  obtain rfl := (List.cons.inj hlist).2
  have hmem : some '-' ∈ os.map OptionName.letter? := h ▸ List.mem_cons_self
  obtain ⟨o, -, ho⟩ := List.mem_map.1 hmem
  cases o <;> cases ho

/-- An option with a value is not a switch. -/
theorem switch?_of_takesValue (h : o.takesValue = true) : o.switch? = none := by
  cases o <;> first | rfl | cases h

/-- A switch that is written says what it stands for. -/
theorem switchOf?_flag (o : OptionName) : switchOf? o.flag = o.switch? := by
  cases o <;> decide

/-- An argument that is no option says nothing as a switch. -/
theorem switchOf?_eq_none (h : ∀ o : OptionName, a ≠ o.flag) : switchOf? a = none :=
  (if_neg (h .neighbors)).trans (if_neg (h .noNeighbors))

/-- An argument that is not long is no option, with a value or without. -/
theorem ne_of_not_isLong (h : ¬IsLong a) (o : OptionName) (value : String) :
    a ≠ o.flag ∧ a ≠ o.flag ++ "=" ++ value :=
  ⟨fun heq => h (heq ▸ isLong_flag o), fun heq => h (heq ▸ isLong_attached o value)⟩

/-- An argument gives an option the value behind it, or the one attached. -/
theorem valueAt?_eq_some_iff {next : Option String} : o.valueAt? a next = some value ↔
    a = o.flag ∧ next = some value ∨ a = o.flag ++ "=" ++ value := by
  have hattached : ((o.flag ++ "=").toList.isPrefixOf? a.toList).map String.ofList = some value ↔
      a = o.flag ++ "=" ++ value := by
    rw [Option.map_eq_some_iff, eq_comm (a := a), ← String.toList_inj]
    simp only [List.isPrefixOf?_eq_some_iff_append_eq, ← String.toList_inj, String.toList_ofList,
      exists_eq_right, String.toList_append]
  rw [OptionName.valueAt?]
  split
  · next h => simp [h, flag_ne_attached]
  · next h => rw [hattached, or_iff_right fun h' => h h'.1]

/-- An option takes the value behind it, and no other option does. -/
theorem valueAt?_flag (o o' : OptionName) (next : Option String) :
    o.valueAt? o'.flag next = if o' = o then next else none := by
  refine Option.ext fun value => ?_
  rw [valueAt?_eq_some_iff, flag_inj, or_iff_left flag_ne_attached, Option.ite_none_right_eq_some]

/-- An option takes the value attached, and no other option does. -/
theorem valueAt?_attached (o o' : OptionName) (value : String) (next : Option String) :
    o.valueAt? (o'.flag ++ "=" ++ value) next = if o' = o then some value else none := by
  refine Option.ext fun value' => ?_
  rw [valueAt?_eq_some_iff, or_iff_right fun h => flag_ne_attached h.1.symm, attached_inj,
    Option.ite_none_right_eq_some, Option.some.injEq]

/-- An argument that is not long gives no value. -/
theorem valueAt?_of_not_isLong (h : ¬IsLong a) (next : Option String) :
    o.valueAt? a next = none := by
  refine Option.eq_none_iff_forall_ne_some.2 fun value hvalue => ?_
  obtain ⟨hflag, hattached⟩ := ne_of_not_isLong h o value
  rcases valueAt?_eq_some_iff.1 hvalue with ⟨ha, -⟩ | ha
  · exact hflag ha
  · exact hattached ha

/-- An argument that is not long says nothing as a switch. -/
theorem switchOf?_of_not_isLong (h : ¬IsLong a) : switchOf? a = none :=
  switchOf?_eq_none fun o => (ne_of_not_isLong h o "").1

end Arguments

/-! ## What a row says -/

/-- The values in a row are those in its front and those behind. -/
theorem valuesIn_append (o : OptionName) (row more : List (OptionName × String)) :
    valuesIn o (row ++ more) = valuesIn o row ++ valuesIn o more := List.filterMap_append

/-- The first option of a row has its value in front of the others. -/
theorem valuesIn_cons (o o' : OptionName) (value : String) (row : List (OptionName × String)) :
    valuesIn o ((o', value) :: row) = (if o' = o then some value else none).toList ++
      valuesIn o row := by
  rw [valuesIn, List.filterMap_cons, valuesIn]
  split <;> next h => rw [h]; rfl

namespace Spelled

variable {known : List OptionName} {argv : List String} {row : List (OptionName × String)}
  {o : OptionName} {value : String}

/-- An option with a value is none without. -/
theorem ne_of_takesValue {o' : OptionName} (htakes : o.takesValue = true)
    (hflag : o'.takesValue = false) : o ≠ o' := by
  rintro rfl
  rw [htakes] at hflag
  cases hflag

/-- **The values of an option are those that stand behind it**, in the same order. -/
theorem valuesOf_eq (h : Spelled known argv row) (htakes : o.takesValue = true) :
    valuesOf o argv = valuesIn o row := by
  induction h with
  | nil => rfl
  | endOfOptions =>
    rw [valuesOf, valueAt?_of_not_isLong not_isLong_dashes]
    rfl
  | @flag o' argv row hknown hflag h ih =>
    have hne : o' ≠ o := (ne_of_takesValue htakes hflag).symm
    rw [valuesOf, valueAt?_flag, if_neg hne, ih, valuesIn_cons, if_neg hne]
  | @letters _ os argv row hknown hne hletters h ih =>
    have hos : valuesIn o (os.map (·, "")) = [] := by
      refine List.filterMap_eq_nil_iff.2 fun e he => if_neg ?_
      obtain ⟨o', ho', rfl⟩ := List.mem_map.1 he
      have := takesValue_of_letter? (exists_letter? hletters ho').choose_spec
      exact (ne_of_takesValue htakes this).symm
    rw [valuesOf, valueAt?_of_not_isLong (not_isLong_letters hletters), ih, valuesIn_append, hos]
    rfl
  | @attached o' value' argv row hknown htakes' h ih =>
    rw [valuesOf, valueAt?_attached, ih, valuesIn_cons]
  | @separate o' value' argv row hknown htakes' hword h ih =>
    rw [valuesOf, valueAt?_flag, valuesOf, valueAt?_of_not_isLong hword.not_isLong, ih,
      valuesIn_cons]
    rfl

/-- The switches of an argument list are those of its row, in order. -/
theorem filterMap_switch (h : Spelled known argv row) :
    argv.filterMap switchOf? = row.filterMap (·.1.switch?) := by
  induction h with
  | nil => rfl
  | endOfOptions => rfl
  | @flag o argv row hknown hflag h ih =>
    simp [List.filterMap_cons, switchOf?_flag, ih]
  | @letters _ os argv row hknown hne hletters h ih =>
    have hos : (os.map (·, "")).filterMap (·.1.switch?) = [] := by
      refine List.filterMap_eq_nil_iff.2 fun e he => ?_
      obtain ⟨o, ho, rfl⟩ := List.mem_map.1 he
      obtain ⟨c, hc⟩ := exists_letter? hletters ho
      cases o <;> first | rfl | cases hc
    rw [List.filterMap_cons_none (switchOf?_of_not_isLong (not_isLong_letters hletters)),
      List.filterMap_append, hos, List.nil_append, ih]
  | @attached o value argv row hknown htakes h ih =>
    have hattached : switchOf? (o.flag ++ "=" ++ value) = none :=
      switchOf?_eq_none fun _ => flag_ne_attached.symm
    simp only [List.filterMap_cons, hattached, switch?_of_takesValue htakes, ih]
  | @separate o value argv row hknown htakes hword h ih =>
    simp only [List.filterMap_cons, switchOf?_flag, switchOf?_of_not_isLong hword.not_isLong,
      switch?_of_takesValue htakes, ih]

/-- An option without a value and without a letter is given where it stands. -/
theorem flag_mem_iff (h : Spelled known argv row) (hflag : o.takesValue = false)
    (hletter : o.letter? = none) : o.flag ∈ argv ↔ ∃ value, (o, value) ∈ row := by
  have hnotLong {a : String} (h : ¬IsLong a) : o.flag ≠ a := (ne_of_not_isLong h o "").1.symm
  induction h with
  | nil => simp
  | endOfOptions =>
    refine iff_of_false (fun h => ?_) (fun ⟨_, h⟩ => List.not_mem_nil h)
    exact hnotLong not_isLong_dashes (List.mem_singleton.1 h)
  | @flag o' argv row hknown hflag' h ih =>
    simp only [List.mem_cons, flag_inj, ih, Prod.mk.injEq, exists_or, exists_and_left, exists_eq,
      and_true]
  | @letters _ os argv row hknown hne hletters h ih =>
    have hmem (value : String) : (o, value) ∉ os.map (·, "") := fun ho => by
      obtain ⟨o', ho', heq⟩ := List.mem_map.1 ho
      obtain ⟨c, hc⟩ := exists_letter? hletters ho'
      rw [(Prod.mk.inj heq).1, hletter] at hc
      cases hc
    simp only [List.mem_cons, hnotLong (not_isLong_letters hletters), false_or, ih,
      List.mem_append, hmem]
  | @attached o' value' argv row hknown htakes' h ih =>
    have hne := (ne_of_takesValue htakes' hflag).symm
    simp only [List.mem_cons, flag_ne_attached, false_or, ih, Prod.mk.injEq, hne, false_and]
  | @separate o' value' argv row hknown htakes' hword h ih =>
    have hne := (ne_of_takesValue htakes' hflag).symm
    simp only [List.mem_cons, flag_inj, hne, hnotLong hword.not_isLong, false_or, ih,
      Prod.mk.injEq, false_and]

end Spelled

end TileScope.CommandLine
