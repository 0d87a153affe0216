import TileScope.CommandLine.Options
import TileScope.Proofs.InOrder

/-!
# What an argument list spells

The argument lists of a command, said without tokens and without a reader (`Spelled`): what they
spell is a row of options with their values, in order.

| arguments | row |
| --- | --- |
| `--option` | an option that takes no value |
| `-ab` | two such options |
| `--option=value` | an option with its value |
| `--option`, `value` | the same; here the value may not look like an option |
| `--` at the end | nothing |

**An argument list that is read spells a row, and what is read is what the options of the row set
one after the other** (`exists_spelled`).
-/

namespace TileScope.CommandLine

/-- The long form of an option as an argument. -/
def OptionName.flag (o : OptionName) : String := String.ofList ('-' :: '-' :: o.spelling)

/-- An argument that does not look like an option. -/
def IsWord (argument : String) : Prop := argument = "-" ∨ argument.toList.head? ≠ some '-'

/-- What an argument list spells, where a command knows some of the options. -/
inductive Spelled (known : List OptionName) : List String → List (OptionName × String) → Prop
  | nil : Spelled known [] []
  | endOfOptions : Spelled known ["--"] []
  | flag {o : OptionName} {argv : List String} {row : List (OptionName × String)}
    (hknown : o ∈ known) (hflag : o.takesValue = false) (h : Spelled known argv row) :
    Spelled known (o.flag :: argv) ((o, "") :: row)
  | letters {letters : List Char} {os : List OptionName} {argv : List String}
    {row : List (OptionName × String)} (hknown : ∀ o ∈ os, o ∈ known) (hne : os ≠ [])
    (hletters : os.map OptionName.letter? = letters.map some) (h : Spelled known argv row) :
    Spelled known (String.ofList ('-' :: letters) :: argv) (os.map (·, "") ++ row)
  | attached {o : OptionName} {value : String} {argv : List String}
    {row : List (OptionName × String)} (hknown : o ∈ known) (htakes : o.takesValue = true)
    (h : Spelled known argv row) :
    Spelled known ((o.flag ++ "=" ++ value) :: argv) ((o, value) :: row)
  | separate {o : OptionName} {value : String} {argv : List String}
    {row : List (OptionName × String)} (hknown : o ∈ known) (htakes : o.takesValue = true)
    (hword : IsWord value) (h : Spelled known argv row) :
    Spelled known (o.flag :: value :: argv) ((o, value) :: row)

/-- What an argument can be on its own, with its tokens. -/
inductive Argument (known : List OptionName) : String → List Token → Prop
  | endOfOptions : Argument known "--" [.endOfOptions]
  | unknown {a : String} {ts : List Token} (h : .unknown ∈ ts) : Argument known a ts
  | flag {o : OptionName} (hknown : o ∈ known) : Argument known o.flag [.option o none]
  | attached {o : OptionName} (hknown : o ∈ known) (value : String) :
    Argument known (o.flag ++ "=" ++ value) [.option o (some value.toList)]
  | letters {letters : List Char} {os : List OptionName} (hknown : ∀ o ∈ os, o ∈ known)
    (hne : os ≠ []) (hletters : os.map OptionName.letter? = letters.map some) :
    Argument known (String.ofList ('-' :: letters)) (os.map (.option · none))
  | word {a : String} (h : IsWord a) : Argument known a [.word a.toList]

/-- What a row of options sets, one after the other. -/
def Reading.setRow (repeated : List OptionName) (r : Reading) (row : List (OptionName × String)) :
    Except UsageError Reading :=
  row.foldlM (fun r e => r.set repeated e.1 e.2) r

/-! ## Tokens -/

section Tokens

variable {known : List OptionName}

/-- An option with a letter takes no value. -/
theorem takesValue_of_letter? {o : OptionName} {c : Char} (h : o.letter? = some c) :
    o.takesValue = false := by
  cases o <;> first | rfl | cases h

/-- Options written as letters have one each. -/
theorem exists_letter? {letters : List Char} {os : List OptionName}
    (h : os.map OptionName.letter? = letters.map some) {o : OptionName} (ho : o ∈ os) :
    ∃ c, o.letter? = some c := by
  obtain ⟨c, -, hc⟩ := List.mem_map.1 (h ▸ List.mem_map_of_mem ho)
  exact ⟨c, hc.symm⟩

/-- A long argument is an option, perhaps with a value attached, if its spelling is known. -/
theorem tokens_long {rest : List Char} (hrest : rest ≠ []) : tokens known ('-' :: '-' :: rest) =
    match known.find? (·.spelling = rest.takeWhile (· ≠ '=')) with
    | some o => [.option o (match rest.dropWhile (· ≠ '=') with
      | '=' :: value => some value
      | _ => none)]
    | none => [.unknown] := by
  cases rest with
  | nil => exact absurd rfl hrest
  | cons c rest => rfl

/-- A long argument that a command knows is an option alone or with a value attached. -/
theorem tokens_long_cases {rest : List Char} (hrest : rest ≠ []) :
    tokens known ('-' :: '-' :: rest) = [.unknown] ∨ ∃ o ∈ known,
      rest = o.spelling ∧ tokens known ('-' :: '-' :: rest) = [.option o none] ∨
      ∃ value, rest = o.spelling ++ '=' :: value ∧
        tokens known ('-' :: '-' :: rest) = [.option o (some value)] := by
  rw [tokens_long hrest]
  cases hfind : known.find? (·.spelling = rest.takeWhile (· ≠ '=')) with
  | none => exact .inl rfl
  | some o =>
    have hname : o.spelling = rest.takeWhile (· ≠ '=') := by simpa using List.find?_some hfind
    have hsplit : o.spelling ++ rest.dropWhile (· ≠ '=') = rest := by
      rw [hname, List.takeWhile_append_dropWhile]
    refine .inr ⟨o, List.mem_of_find?_eq_some hfind, ?_⟩
    cases hdrop : rest.dropWhile (· ≠ '=') with
    | nil =>
      rw [hdrop, List.append_nil] at hsplit
      exact .inl ⟨hsplit.symm, rfl⟩
    | cons m value =>
      have hmark := List.head?_dropWhile_not (fun c => decide (c ≠ '=')) rest
      rw [hdrop, List.head?_cons] at hmark
      obtain rfl : m = '=' := by simpa using hmark
      exact .inr ⟨value, by rw [← hdrop, hsplit], rfl⟩

/-- Short options that a command knows, or one that it does not. -/
theorem letters_cases (letters : List Char) :
    .unknown ∈ letters.map (fun c => match known.find? (·.letter? = some c) with
      | some o => Token.option o none
      | none => .unknown) ∨
    ∃ os : List OptionName, (∀ o ∈ os, o ∈ known) ∧
      os.map OptionName.letter? = letters.map some ∧
      letters.map (fun c => match known.find? (·.letter? = some c) with
        | some o => Token.option o none
        | none => .unknown) = os.map (.option · none) := by
  induction letters with
  | nil => exact .inr ⟨[], nofun, rfl, rfl⟩
  | cons c letters ih =>
    simp only [List.map_cons, List.mem_cons]
    cases hfind : known.find? (·.letter? = some c) with
    | none => exact .inl (.inl rfl)
    | some o =>
      have hletter : o.letter? = some c := by simpa using List.find?_some hfind
      rcases ih with hunknown | ⟨os, hknown, hletters, htokens⟩
      · exact .inl (.inr hunknown)
      · refine .inr ⟨o :: os, ?_, by rw [List.map_cons, hletter, hletters], ?_⟩
        · exact List.forall_mem_cons.2 ⟨List.mem_of_find?_eq_some hfind, hknown⟩
        · rw [htokens]
          rfl

/-- An argument is never nothing. -/
theorem Argument.ne_nil {a : String} {ts : List Token} (h : Argument known a ts) : ts ≠ [] := by
  cases h with
  | unknown h => exact List.ne_nil_of_mem h
  | letters _ hne _ => exact mt List.map_eq_nil_iff.1 hne
  | endOfOptions | flag | attached | word => exact List.cons_ne_nil _ _

/-- The tokens of an argument are of one of its forms. -/
theorem argument_tokens (known : List OptionName) (a : String) :
    Argument known a (tokens known a.toList) := by
  obtain ⟨cs, rfl⟩ : ∃ cs, a = String.ofList cs := ⟨a.toList, String.ofList_toList.symm⟩
  have hword (h : IsWord (String.ofList cs)) (htokens : tokens known cs = [.word cs]) :
      Argument known (String.ofList cs) (tokens known cs) := by
    have hargument : Argument known _ _ := .word h
    rwa [String.toList_ofList, ← htokens] at hargument
  have hplain (h : cs.head? ≠ some '-') : IsWord (String.ofList cs) :=
    .inr (by rwa [String.toList_ofList])
  rw [String.toList_ofList]
  -- By the dashes in front: a word has none, or is one dash and nothing else.
  match cs with
  | [] => exact hword (hplain nofun) rfl
  | [c] =>
    refine hword ?_ (by simp [tokens])
    by_cases hc : c = '-'
    · exact .inl (congrArg (String.ofList [·]) hc)
    · exact hplain (by simpa using hc)
  | c :: d :: rest =>
    by_cases hc : c = '-'
    · subst hc
      by_cases hd : d = '-'
      · subst hd
        by_cases hrest : rest = []
        · subst hrest
          exact .endOfOptions
        · rcases tokens_long_cases hrest with
            hunknown | ⟨o, hknown, ⟨rfl, htokens⟩ | ⟨value, rfl, htokens⟩⟩
          · exact hunknown ▸ .unknown (List.mem_singleton.2 rfl)
          · exact htokens ▸ .flag hknown
          · have hflag : String.ofList ('-' :: '-' :: (o.spelling ++ '=' :: value))
                = o.flag ++ "=" ++ String.ofList value := by
              rw [← String.toList_inj]
              simp [OptionName.flag]
            have := Argument.attached hknown (String.ofList value)
            rwa [String.toList_ofList, ← htokens, ← hflag] at this
      · have htokens : tokens known ('-' :: d :: rest) = (d :: rest).map fun c =>
            match known.find? (·.letter? = some c) with
            | some o => .option o none
            | none => .unknown := by
          rw [tokens] <;> first | rfl | simp [hd]
        rcases letters_cases (d :: rest) with hunknown | ⟨os, hknown, hletters, hmap⟩
        · exact htokens ▸ .unknown hunknown
        · refine htokens.trans hmap ▸ .letters hknown ?_ hletters
          rintro rfl
          cases hletters
    · refine hword (hplain (by simpa using hc)) ?_
      rw [tokens] <;> simp_all

end Tokens

/-! ## Reading -/

namespace Reading

variable {repeated : List OptionName} {r r' : Reading}

/-- A token is taken by a step, up to the one that ends the options. -/
theorem run_cons {t : Token} (ht : t ≠ .endOfOptions) (ts : List Token) :
    run repeated r (t :: ts) = (do run repeated (← r.step repeated t) ts) := by
  cases t with
  | endOfOptions => exact absurd rfl ht
  | option | word | unknown => cases ts <;> rfl

/-- An unknown argument is never read. -/
theorem not_unknown_mem {ts : List Token} (h : run repeated r ts = .ok r') : .unknown ∉ ts := by
  induction ts generalizing r with
  | nil => exact List.not_mem_nil
  | cons t ts ih =>
    by_cases ht : t = .endOfOptions
    · subst ht
      cases ts with
      | nil => simp
      | cons => cases h
    · rw [run_cons ht] at h
      obtain ⟨next, hstep, h⟩ := bind_eq_ok_iff.1 h
      rw [List.mem_cons, not_or]
      refine ⟨?_, ih h⟩
      rintro rfl
      cases hstep

/-- **What an option with its value sets**: it was not given before, or it may come again, and takes
back what it excludes. -/
theorem set_eq_ok_iff {o : OptionName} {value : String} : r.set repeated o value = .ok r' ↔
    (r.has o = true → o ∈ repeated) ∧ ∃ g, Given.ofValue o value = .ok g ∧
      r' = { r with given := r.given.filter (fun h => some h.option ≠ takenBack? o) ++ [g] } := by
  rw [set]
  split
  · next hagain => exact iff_of_false nofun fun h => hagain.2 (h.1 hagain.1)
  · next hfirst =>
    have honce : r.has o = true → o ∈ repeated := fun h =>
      Decidable.not_not.1 fun h' => hfirst ⟨h, h'⟩
    refine Iff.trans bind_eq_ok_iff ?_
    constructor
    · rintro ⟨g, hg, h⟩
      exact ⟨honce, g, hg, (Except.ok.inj h).symm⟩
    · rintro ⟨-, g, hg, h⟩
      exact ⟨g, hg, congrArg _ h.symm⟩

/-- A row is set option by option. -/
theorem setRow_cons {e : OptionName × String} {row : List (OptionName × String)} :
    r.setRow repeated (e :: row) = .ok r' ↔
      ∃ next, r.set repeated e.1 e.2 = .ok next ∧ next.setRow repeated row = .ok r' := by
  rw [setRow, List.foldlM_cons, bind_eq_ok_iff]
  rfl

/-- A row is set one part after the other. -/
theorem setRow_append {row more : List (OptionName × String)} :
    r.setRow repeated (row ++ more) = .ok r' ↔
      ∃ next, r.setRow repeated row = .ok next ∧ next.setRow repeated more = .ok r' := by
  rw [setRow, List.foldlM_append, bind_eq_ok_iff]
  rfl

/-- Setting an option leaves the one that waits as it is. -/
theorem pending_of_set {o : OptionName} {value : String} (h : r.set repeated o value = .ok r') :
    r'.pending = r.pending := by
  obtain ⟨-, g, -, rfl⟩ := set_eq_ok_iff.1 h
  rfl

/-- Once it is settled no option waits. -/
theorem pending_of_settle (h : r.settle repeated = .ok r') : r'.pending = none := by
  rw [settle] at h
  split at h
  · next hpending => exact Except.ok.inj h ▸ hpending
  · cases h
  · exact pending_of_set h

section Step

variable {o : OptionName}

/-- An option without a value is set at once. -/
theorem step_flag (h : o.takesValue = false) :
    r.step repeated (.option o none) = (do set repeated (← r.settle repeated) o "") := by
  simp only [step, h]

/-- An option with a value waits for it. -/
theorem step_waiting (h : o.takesValue = true) : r.step repeated (.option o none)
    = (do return { (← r.settle repeated) with pending := some (o, none) }) := by
  simp only [step, h]

/-- An option with its value attached is set at once. -/
theorem step_attached (h : o.takesValue = true) (value : List Char) :
    r.step repeated (.option o (some value))
      = (do set repeated (← r.settle repeated) o (String.ofList value)) := by
  simp only [step, h]

/-- A value attached to an option that takes none is refused. -/
theorem step_surplus (h : o.takesValue = false) (value : List Char) :
    r.step repeated (.option o (some value)) = .error .tooManyValues := by
  simp only [step, h]

end Step

/-- If no option waits there is nothing to settle. -/
theorem settle_of_pending (h : r.pending = none) : r.settle repeated = .ok r := by
  rw [settle, h]

/-- Short options are set one after the other, once what was pending is settled. -/
theorem run_letters {os : List OptionName} (hne : os ≠ []) (h : ∀ o ∈ os, o.takesValue = false)
    {ts : List Token} (hrun : run repeated r (os.map (.option · none) ++ ts) = .ok r') :
    ∃ settled next, r.settle repeated = .ok settled ∧
      settled.setRow repeated (os.map (·, "")) = .ok next ∧ next.pending = none ∧
      run repeated next ts = .ok r' := by
  induction os generalizing r with
  | nil => exact absurd rfl hne
  | cons o os ih =>
    rw [List.map_cons, List.cons_append, run_cons (by simp)] at hrun
    obtain ⟨one, hstep, hrun⟩ := bind_eq_ok_iff.1 hrun
    rw [step_flag (h o List.mem_cons_self)] at hstep
    obtain ⟨settled, hsettle, hset⟩ := bind_eq_ok_iff.1 hstep
    have hpending : one.pending = none := (pending_of_set hset).trans (pending_of_settle hsettle)
    by_cases hos : os = []
    · subst hos
      exact ⟨settled, one, hsettle, setRow_cons.2 ⟨one, hset, rfl⟩, hpending, hrun⟩
    · obtain ⟨settled', next, hsettle', hrow, hnext⟩ :=
        ih hos (fun o ho => h o (List.mem_cons_of_mem _ ho)) hrun
      rw [settle_of_pending hpending] at hsettle'
      obtain rfl := Except.ok.inj hsettle'
      exact ⟨settled, next, hsettle, setRow_cons.2 ⟨one, hset, hrow⟩, hnext⟩

/-- An option waits for a value. -/
def Awaits (r : Reading) (o : OptionName) : Prop := r.pending = some (o, none)

/-- An option that waits for its value cannot be settled. -/
theorem Awaits.settle_ne {o : OptionName} (h : r.Awaits o) : r.settle repeated ≠ .ok r' := by
  rw [settle, h]
  exact nofun

/-- How a reading goes on: with a value if an option waits for one, and settled if none does; then
what is set is what the arguments spell. -/
structure GoesOn (known repeated : List OptionName) (r r' : Reading) (argv : List String) :
    Prop where
  waiting : ∀ o, r.Awaits o → ∃ value rest row, argv = value :: rest ∧ IsWord value ∧
    Spelled known rest row ∧
    ({ r with pending := none } : Reading).setRow repeated ((o, value) :: row) = .ok r'
  settled : (∀ o, ¬r.Awaits o) → ∃ settled row, r.settle repeated = .ok settled ∧
    Spelled known argv row ∧ settled.setRow repeated row = .ok r'

namespace GoesOn

variable {known : List OptionName} {argv : List String} {settled : Reading}
  {row : List (OptionName × String)} {o : OptionName} {ts : List Token}

/-- A list whose row is set from what was settled goes on to the result. -/
theorem of_settle (hsettle : r.settle repeated = .ok settled) (hspelled : Spelled known argv row)
    (hrow : settled.setRow repeated row = .ok r') : GoesOn known repeated r r' argv :=
  ⟨fun _ ho => absurd hsettle ho.settle_ne, fun _ => ⟨settled, row, hsettle, hspelled, hrow⟩⟩

/-- Behind an option that is set nothing is pending. -/
theorem exists_row (h : GoesOn known repeated r r' argv) (hpending : r.pending = none) :
    ∃ row, Spelled known argv row ∧ r.setRow repeated row = .ok r' := by
  obtain ⟨settled, row, hsettle, hspelled, hrow⟩ := h.settled fun o ho => by
    rw [Awaits, hpending] at ho
    cases ho
  rw [settle_of_pending hpending] at hsettle
  obtain rfl := Except.ok.inj hsettle
  exact ⟨row, hspelled, hrow⟩

/-- Nothing can stand behind the end of the options. -/
theorem endOfOptions
    (h : run repeated r (.endOfOptions :: argv.flatMap fun a => tokens known a.toList) = .ok r') :
    GoesOn known repeated r r' ("--" :: argv) := by
  cases argv with
  | nil => exact .of_settle h .endOfOptions rfl
  | cons b argv =>
    rw [List.flatMap_cons] at h
    cases hb : tokens known b.toList with
    | nil => exact absurd hb (argument_tokens known b).ne_nil
    | cons t ts =>
      rw [hb] at h
      cases h

/-- An option in front goes on with the list behind it, or with its value first. -/
theorem flag (hknown : o ∈ known) (hgoes : ∀ {next}, run repeated next ts = .ok r' →
      GoesOn known repeated next r' argv)
    (h : run repeated r (.option o none :: ts) = .ok r') :
    GoesOn known repeated r r' (o.flag :: argv) := by
  rw [run_cons (by simp)] at h
  obtain ⟨next, hstep, h⟩ := bind_eq_ok_iff.1 h
  cases htakes : o.takesValue with
  | false =>
    rw [step_flag htakes] at hstep
    obtain ⟨settled, hsettle, hset⟩ := bind_eq_ok_iff.1 hstep
    obtain ⟨row, hspelled, hrow⟩ :=
      (hgoes h).exists_row ((pending_of_set hset).trans (pending_of_settle hsettle))
    exact .of_settle hsettle (.flag hknown htakes hspelled) (setRow_cons.2 ⟨next, hset, hrow⟩)
  | true =>
    rw [step_waiting htakes] at hstep
    obtain ⟨settled, hsettle, hwait⟩ := bind_eq_ok_iff.1 hstep
    obtain rfl := Except.ok.inj hwait
    obtain ⟨value, rest, row, rfl, hword, hspelled, hrow⟩ := (hgoes h).waiting o rfl
    have hsettled : { settled with pending := none } = settled := by
      rw [← pending_of_settle hsettle]
    exact .of_settle hsettle (.separate hknown htakes hword hspelled) (hsettled ▸ hrow)

/-- An option with its value attached goes on with the list behind it. -/
theorem attached (hknown : o ∈ known) (value : String)
    (hgoes : ∀ {next}, run repeated next ts = .ok r' → GoesOn known repeated next r' argv)
    (h : run repeated r (.option o (some value.toList) :: ts) = .ok r') :
    GoesOn known repeated r r' ((o.flag ++ "=" ++ value) :: argv) := by
  rw [run_cons (by simp)] at h
  obtain ⟨next, hstep, h⟩ := bind_eq_ok_iff.1 h
  cases htakes : o.takesValue with
  | false =>
    rw [step_surplus htakes] at hstep
    cases hstep
  | true =>
    rw [step_attached htakes, String.ofList_toList] at hstep
    obtain ⟨settled, hsettle, hset⟩ := bind_eq_ok_iff.1 hstep
    obtain ⟨row, hspelled, hrow⟩ :=
      (hgoes h).exists_row ((pending_of_set hset).trans (pending_of_settle hsettle))
    exact .of_settle hsettle (.attached hknown htakes hspelled) (setRow_cons.2 ⟨next, hset, hrow⟩)

/-- Letters behind a dash go on with the list behind them. -/
theorem letters {letters : List Char} {os : List OptionName} (hknown : ∀ o ∈ os, o ∈ known)
    (hne : os ≠ []) (hletters : os.map OptionName.letter? = letters.map some)
    (hgoes : ∀ {next}, run repeated next ts = .ok r' → GoesOn known repeated next r' argv)
    (h : run repeated r (os.map (.option · none) ++ ts) = .ok r') :
    GoesOn known repeated r r' (String.ofList ('-' :: letters) :: argv) := by
  have hflags : ∀ o ∈ os, o.takesValue = false := fun o ho =>
    takesValue_of_letter? (exists_letter? hletters ho).choose_spec
  obtain ⟨settled, next, hsettle, hfront, hpending, h⟩ := run_letters hne hflags h
  obtain ⟨row, hspelled, hrow⟩ := (hgoes h).exists_row hpending
  exact .of_settle hsettle (.letters hknown hne hletters hspelled)
    (setRow_append.2 ⟨next, hfront, hrow⟩)

/-- A word is the value of the option that waits, or one too many. -/
theorem word {a : String} (hword : IsWord a)
    (hgoes : ∀ {next}, run repeated next ts = .ok r' → GoesOn known repeated next r' argv)
    (h : run repeated r (.word a.toList :: ts) = .ok r') :
    GoesOn known repeated r r' (a :: argv) := by
  rw [run_cons (by simp)] at h
  obtain ⟨next, hstep, h⟩ := bind_eq_ok_iff.1 h
  by_cases hwait : ∃ o, r.Awaits o
  · obtain ⟨o, ho⟩ := hwait
    rw [step, ho] at hstep
    obtain rfl := Except.ok.inj hstep
    obtain ⟨settled, row, hsettle, hspelled, hrow⟩ := (hgoes h).settled fun o ho => by cases ho
    rw [settle] at hsettle
    dsimp only at hsettle
    rw [String.ofList_toList] at hsettle
    refine ⟨fun o' ho' => ?_, fun hnone => absurd ho (hnone o)⟩
    obtain ⟨rfl, -⟩ := Prod.mk.inj (Option.some.inj (ho.symm.trans ho'))
    exact ⟨a, argv, row, rfl, hword, hspelled, setRow_cons.2 ⟨settled, hsettle, hrow⟩⟩
  · rw [step] at hstep
    split at hstep
    · next o ho => exact absurd ⟨o, ho⟩ hwait
    · cases hstep

end GoesOn

/-- **Every run goes on as the arguments spell it**, by induction on the arguments, whether an option
waits in front of them or not. -/
theorem goesOn_of_run {known : List OptionName} {argv : List String}
    (h : run repeated r (argv.flatMap fun a => tokens known a.toList) = .ok r') :
    GoesOn known repeated r r' argv := by
  induction argv generalizing r with
  | nil => exact .of_settle h .nil rfl
  | cons a argv ih =>
    rw [List.flatMap_cons] at h
    have hargument := argument_tokens known a
    generalize tokens known a.toList = ts at h hargument
    cases hargument with
    | endOfOptions => exact .endOfOptions h
    | unknown hunknown => exact absurd (List.mem_append_left _ hunknown) (not_unknown_mem h)
    | flag hknown => exact .flag hknown ih h
    | attached hknown value => exact .attached hknown value ih h
    | letters hknown hne hletters => exact .letters hknown hne hletters ih h
    | word hword => exact .word hword ih h

end Reading

/-- **What is read is what the argument list spells**: the options of a row, set one after the
other. -/
theorem exists_spelled {known repeated : List OptionName} {argv : List String} {given : List Given}
    (h : readOptions known repeated argv = .ok given) : ∃ row r, Spelled known argv row ∧
      ({} : Reading).setRow repeated row = .ok r ∧ r.given = given := by
  rw [readOptions] at h
  cases hrun : ({} : Reading).run repeated (argv.flatMap fun a => tokens known a.toList) with
  | error e =>
    rw [hrun] at h
    cases h
  | ok r =>
    rw [hrun] at h
    obtain ⟨row, hspelled, hrow⟩ := (Reading.goesOn_of_run hrun).exists_row rfl
    exact ⟨row, r, hspelled, hrow, Except.ok.inj h⟩

end TileScope.CommandLine
