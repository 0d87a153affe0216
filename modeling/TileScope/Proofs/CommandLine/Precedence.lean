import Mathlib
import TileScope.CommandLine.Plan
import TileScope.Proofs.CommandLine.Overriding
import TileScope.Proofs.Grid.Window

/-!
# Arguments go before settings

The plan of an inspection, from its argument list and the settings:

| part | first | then |
| --- | --- | --- |
| source | `--mbtiles`, then `--url` | the archive, then the service |
| time limit of a service | `--timeout` | the time limit |
| layer | `--layer` | the layer |
| tiles around | the last switch | the switch |
| ids, name | `--id`, `--name` | |

Arguments that are read say what stands in the list (`Inspect.says_of_read`), and the plan is what
the table says (`Inspect.Says.plan_eq`). So settings that the arguments go before have no say
(`AgreeBeyond.plan_eq`).
-/

namespace TileScope.CommandLine

/-- The value of an option in an argument list. -/
def valueOf? (argv : List String) (o : OptionName) : Option String := (valuesOf o argv).head?

/-- How many seconds a request may take. -/
def timeLimit (argv : List String) (settings : Settings) : UInt64 :=
  ((valueOf? argv .timeout).bind Text.word64?).getD settings.timeout

/-- Where tiles come from, if anything says so. -/
def sourceFor? (argv : List String) (settings : Settings) : Option Source :=
  ((valueOf? argv .archive).map .archive).or <|
  ((valueOf? argv .service).map (.service · (timeLimit argv settings))).or <|
  (settings.archive.map .archive).or <|
  settings.service.map (.service · (timeLimit argv settings))

/-- The argument list says what to look for, or wants all that there is. -/
def HasTarget (argv : List String) : Prop :=
  valuesOf .id argv ≠ [] ∨ valueOf? argv .name ≠ none ∨ "--all" ∈ argv

instance (argv : List String) : Decidable (HasTarget argv) :=
  inferInstanceAs (Decidable (_ ∨ _ ∨ _))

/-- The settings differ only where the argument list goes before them. -/
structure AgreeBeyond (argv : List String) (s t : Settings) : Prop where
  archive : valueOf? argv .archive = none → valueOf? argv .service = none → s.archive = t.archive
  service : valueOf? argv .archive = none → valueOf? argv .service = none → s.service = t.service
  timeout : valueOf? argv .archive = none → valueOf? argv .timeout = none → s.timeout = t.timeout
  layer : valueOf? argv .layer = none → s.layer = t.layer
  neighbors : lastSwitch argv = none → s.neighbors = t.neighbors

/-- A plan is what an argument list and settings say. -/
structure InspectPlan.Follows (plan : InspectPlan) (argv : List String) (settings : Settings) :
    Prop where
  source : sourceFor? argv settings = some plan.source
  center : ∃ value, valueOf? argv .tile = some value ∧
    TileKey.parse value = .ok plan.request.center
  ids : ∃ ids : List UInt64, (valuesOf .id argv).map Text.word64? = ids.map some ∧
    ∀ n, n ∈ plan.request.query.ids ↔ n ∈ ids
  name : plan.request.query.name = valueOf? argv .name
  layer : plan.request.query.layer = (valueOf? argv .layer).or settings.layer
  neighbors : plan.request.includeNeighbors = (lastSwitch argv).getD settings.neighbors
  keys : ∀ key, key ∈ plan.request.keys ↔ key = plan.request.center ∨
    plan.request.includeNeighbors = true ∧ key.zoom = plan.request.center.zoom ∧
      |(key.x.toNat : Int) - plan.request.center.x.toNat| ≤ 1 ∧
      |(key.y.toNat : Int) - plan.request.center.y.toNat| ≤ 1
  ordered : plan.request.keys.Pairwise TileKey.Before

/-- The arguments of an inspection are those that stand in an argument list. -/
structure Inspect.Says (i : Inspect) (argv : List String) : Prop where
  tile : (valueOf? argv .tile).map (TileKey.parse · |>.toOption) = some (some i.tile)
  ids : i.targets.ids.map some = (valuesOf .id argv).map Text.word64?
  name : i.targets.name = valueOf? argv .name
  layer : i.targets.layer = valueOf? argv .layer
  neighbors : i.neighbors = true ↔ lastSwitch argv = some true
  noNeighbors : i.noNeighbors = true ↔ lastSwitch argv = some false
  archive : i.source.archive = valueOf? argv .archive
  service : i.source.service = valueOf? argv .service
  timeout : i.source.timeout.map some = (valueOf? argv .timeout).map Text.word64?
  all : i.all = true ↔ "--all" ∈ argv
  once : ∀ o : OptionName, o.takesValue = true → o ≠ .id → (valuesOf o argv).length ≤ 1

/-! ## What is read -/

/-- A part of what is given belongs to one option, and can be had from its value. -/
structure Belongs {α : Type} (o : OptionName) (part : Given → Option α)
    (ofValue : String → Option α) : Prop where
  other : ∀ g : Given, g.option ≠ o → part g = none
  own : ∀ value g, Given.ofValue o value = .ok g → ∃ a, part g = some a ∧ ofValue value = some a

namespace Belongs

variable {α : Type} {o : OptionName} {part : Given → Option α} {ofValue : String → Option α}
  {repeated : List OptionName} {row : List (OptionName × String)} {given : List Given}

/-- The parts that are given are those of the values of the row. -/
theorem map_filterMap (hpart : Belongs o part ofValue) (hkept : Kept repeated row given)
    (hswitch : o.switch? = none) :
    (given.filterMap part).map some = (valuesIn o row).map ofValue := by
  have hfilter : (given.filter (·.option = o)).filterMap part = given.filterMap part := by
    rw [List.filterMap_filter]
    refine List.filterMap_congr fun g _ => ?_
    by_cases hg : g.option = o
    · simp [hg]
    · simp [hg, hpart.other g hg]
  have hown : ∀ (gs : List Given) (values : List String),
      gs.map .ok = values.map (Given.ofValue o) →
      (gs.filterMap part).map some = values.map ofValue := by
    intro gs values h
    induction values generalizing gs with
    | nil =>
      obtain rfl := List.map_eq_nil_iff.1 h
      rfl
    | cons value values ih =>
      obtain ⟨g, gs, rfl, hg, hgs⟩ := List.map_eq_cons_iff.1 h
      obtain ⟨a, ha, hvalue⟩ := hpart.own value g hg.symm
      rw [List.filterMap_cons_some ha, List.map_cons, List.map_cons, ih gs hgs, hvalue]
  rw [← hfilter]
  exact hown _ _ (hkept.values o hswitch)

/-- The first part that is given is the first value in the row. -/
theorem map_findSome? (hpart : Belongs o part ofValue) (hkept : Kept repeated row given)
    (hswitch : o.switch? = none) :
    (given.findSome? part).map some = (valuesIn o row).head?.map ofValue := by
  rw [← List.head?_filterMap, ← List.head?_map, hpart.map_filterMap hkept hswitch, List.head?_map]

/-- Options with a number have it from their value, if it is one. -/
theorem number {part : Given → Option UInt64} (mk : UInt64 → Given)
    (hother : ∀ g : Given, g.option ≠ o → part g = none) (hmk : ∀ n, part (mk n) = some n)
    (hvalue : ∀ value, Given.ofValue o value =
      ((Text.word64? value).map fun n => .ok (mk n)).getD (.error .valueValidation)) :
    Belongs o part Text.word64? := by
  refine ⟨hother, fun value g h => ?_⟩
  rw [hvalue] at h
  cases hn : Text.word64? value with
  | none =>
    rw [hn] at h
    cases h
  | some n =>
    rw [hn] at h
    obtain rfl := Except.ok.inj h
    exact ⟨n, hmk n, rfl⟩

/-- Options with a text have it from their value. -/
theorem text {part : Given → Option String} (mk : String → Given)
    (hother : ∀ g : Given, g.option ≠ o → part g = none) (hmk : ∀ s, part (mk s) = some s)
    (hvalue : ∀ value g, Given.ofValue o value = .ok g → g = mk value) : Belongs o part some := by
  refine ⟨hother, fun value g h => ?_⟩
  obtain rfl := hvalue value g h
  exact ⟨value, hmk value, rfl⟩

end Belongs

/-- A tile is given by its option alone. -/
theorem tile_belongs : Belongs .tile
    (fun g => match g with
      | .tile key => some key
      | _ => none) (TileKey.parse · |>.toOption) := by
  refine ⟨fun g hg => by cases g <;> first | rfl | exact absurd rfl hg, fun value g h => ?_⟩
  rw [Given.ofValue] at h
  cases hkey : TileKey.parse value with
  | error e =>
    rw [hkey] at h
    cases h
  | ok key =>
    rw [hkey] at h
    obtain rfl := Except.ok.inj h
    exact ⟨key, rfl, rfl⟩

/-- An id is given by its option alone. -/
theorem id_belongs : Belongs .id
    (fun g => match g with
      | .id id => some id
      | _ => none) Text.word64? :=
  .number .id (fun g hg => by cases g <;> first | rfl | exact absurd rfl hg) (fun _ => rfl)
    fun _ => rfl

/-- A timeout is given by its option alone. -/
theorem timeout_belongs : Belongs .timeout
    (fun g => match g with
      | .timeout seconds => some seconds
      | _ => none) Text.word64? :=
  .number .timeout (fun g hg => by cases g <;> first | rfl | exact absurd rfl hg) (fun _ => rfl)
    fun _ => rfl

/-- A name is given by its option alone. -/
theorem name_belongs : Belongs .name
    (fun g => match g with
      | .name name => some name
      | _ => none) some :=
  .text .name (fun g hg => by cases g <;> first | rfl | exact absurd rfl hg) (fun _ => rfl)
    fun _ _ h => (Except.ok.inj h).symm

/-- A layer is given by its option alone. -/
theorem layer_belongs : Belongs .layer
    (fun g => match g with
      | .layer layer => some layer
      | _ => none) some :=
  .text .layer (fun g hg => by cases g <;> first | rfl | exact absurd rfl hg) (fun _ => rfl)
    fun _ _ h => (Except.ok.inj h).symm

/-- A service is given by its option alone. -/
theorem service_belongs : Belongs .service
    (fun g => match g with
      | .service base => some base
      | _ => none) some :=
  .text .service (fun g hg => by cases g <;> first | rfl | exact absurd rfl hg) (fun _ => rfl)
    fun _ _ h => (Except.ok.inj h).symm

/-- An archive is given by its option alone. -/
theorem archive_belongs : Belongs .archive
    (fun g => match g with
      | .archive path => some path
      | _ => none) some := by
  refine .text .archive (fun g hg => by cases g <;> first | rfl | exact absurd rfl hg)
    (fun _ => rfl) fun value g h => ?_
  rw [Given.ofValue] at h
  split at h
  · cases h
  · exact (Except.ok.inj h).symm

section Inspection

variable {everywhere : List OptionName} {argv : List String} {i : Inspect}

/-- The tile of a command is the first that is given. -/
theorem tileOf_eq_ok {given : List Given} {key : TileKey} (h : tileOf given = .ok key) :
    (tilesOf given).head? = some key := by
  rw [tileOf] at h
  split at h
  · next htiles => rw [htiles, List.head?_cons, Except.ok.inj h]
  · cases h

/-- A switch is given just if it is the last one of the row. -/
theorem switch_mem_iff {repeated : List OptionName} {row : List (OptionName × String)}
    {given : List Given} {g : Given} {b : Bool} (hkept : Kept repeated row given)
    (hg : ∀ g' : Given, g'.option.switch? = some b ↔ g' = g) :
    g ∈ given ↔ (row.filterMap (·.1.switch?)).getLast? = some b := by
  rw [← Option.mem_toList, ← hkept.switches, List.mem_filterMap]
  constructor
  · exact fun h => ⟨g, h, (hg g).2 rfl⟩
  · rintro ⟨g', h, hswitch⟩
    exact (hg g').1 hswitch ▸ h

/-- All that there is is wanted just if the row says so. -/
theorem all_mem_iff {repeated : List OptionName} {row : List (OptionName × String)}
    {given : List Given} (hkept : Kept repeated row given) :
    .all ∈ given ↔ ∃ value, (OptionName.all, value) ∈ row := by
  have hgiven : given.filter (·.option = .all) ≠ [] ↔ .all ∈ given := by
    have hall (g : Given) : g.option = .all ↔ g = .all := by
      cases g <;> simp [Given.option]
    simp [hall]
  have hrow : valuesIn .all row ≠ [] ↔ ∃ value, (OptionName.all, value) ∈ row := by
    simp [valuesIn]
  exact hgiven.symm.trans ((not_congr (hkept.filter_eq_nil_iff rfl)).trans hrow)

/-- **Arguments that are read say what stands in the list.** -/
theorem Inspect.says_of_read (h : Inspect.read everywhere argv = .ok i) : i.Says argv := by
  rw [Inspect.read] at h
  obtain ⟨given, hread, h⟩ := bind_eq_ok_iff.1 h
  obtain ⟨row, r, hspelled, hrow, rfl⟩ := exists_spelled hread
  have hkept := kept_of_setRow (by decide) hrow
  have hvalue {o : OptionName} (htakes : o.takesValue = true) :
      valueOf? argv o = (valuesIn o row).head? := congrArg List.head? (hspelled.valuesOf_eq htakes)
  rw [Inspect.ofGiven] at h
  obtain ⟨source, hsource, h⟩ := bind_eq_ok_iff.1 h
  obtain ⟨tile, htile, h⟩ := bind_eq_ok_iff.1 h
  obtain rfl := Except.ok.inj h
  rw [SourceChoice.ofGiven] at hsource
  split at hsource
  · cases hsource
  obtain rfl := Except.ok.inj hsource
  have hsame {x y : Option String} (h : x.map some = y.map some) : x = y :=
    Option.map_injective (Option.some_injective _) h
  -- What is left set is what the row says (`hkept`), and the row is what the list spells
  -- (`hspelled`).
  constructor
  case tile =>
    have htiles := tileOf_eq_ok htile
    rw [tilesOf, List.head?_filterMap] at htiles
    rw [hvalue rfl]
    exact (tile_belongs.map_findSome? hkept rfl).symm.trans (congrArg (Option.map some) htiles)
  case ids =>
    rw [hspelled.valuesOf_eq rfl]
    exact id_belongs.map_filterMap hkept rfl
  case name =>
    rw [hvalue rfl]
    exact hsame (name_belongs.map_findSome? hkept rfl)
  case layer =>
    rw [hvalue rfl]
    exact hsame (layer_belongs.map_findSome? hkept rfl)
  case neighbors =>
    have hon (g : Given) : g.option.switch? = some true ↔ g = .neighbors := by
      cases g <;> simp [Given.option, OptionName.switch?]
    rw [lastSwitch, hspelled.filterMap_switch]
    exact decide_eq_true_iff.trans (switch_mem_iff hkept hon)
  case noNeighbors =>
    have hoff (g : Given) : g.option.switch? = some false ↔ g = .noNeighbors := by
      cases g <;> simp [Given.option, OptionName.switch?]
    rw [lastSwitch, hspelled.filterMap_switch]
    exact decide_eq_true_iff.trans (switch_mem_iff hkept hoff)
  case archive =>
    rw [hvalue rfl]
    exact hsame (archive_belongs.map_findSome? hkept rfl)
  case service =>
    rw [hvalue rfl]
    exact hsame (service_belongs.map_findSome? hkept rfl)
  case timeout =>
    rw [hvalue rfl]
    exact timeout_belongs.map_findSome? hkept rfl
  case all =>
    refine decide_eq_true_iff.trans ?_
    rw [all_mem_iff hkept, ← hspelled.flag_mem_iff rfl rfl]
    rfl
  case once =>
    intro o htakes hid
    rw [hspelled.valuesOf_eq htakes]
    exact hkept.once o (switch?_of_takesValue htakes) (mt List.mem_singleton.1 hid)

/-! ## What is planned -/

/-- The time limit is the one that was said, or that of the settings. -/
theorem Inspect.Says.timeLimit_eq (hsaid : i.Says argv) (settings : Settings) :
    timeLimit argv settings = i.source.timeout.getD settings.timeout := by
  have hjoin (x : Option String) : x.bind Text.word64? = (x.map Text.word64?).join := by
    cases x <;> rfl
  rw [timeLimit, hjoin, ← hsaid.timeout]
  cases i.source.timeout <;> rfl

/-- Of the two switches one at most is given. -/
theorem Inspect.Says.not_both (hsaid : i.Says argv) :
    ¬(i.neighbors = true ∧ i.noNeighbors = true) := by
  rw [hsaid.neighbors, hsaid.noNeighbors]
  rintro ⟨hon, hoff⟩
  rw [hon] at hoff
  cases hoff

/-- The switch that is given decides, else the settings do. -/
theorem Inspect.Says.includeNeighbors_eq (hsaid : i.Says argv) (otherwise : Bool) :
    (!i.noNeighbors && (i.neighbors || otherwise)) = (lastSwitch argv).getD otherwise := by
  have hon : i.neighbors = decide (lastSwitch argv = some true) := by
    rw [Bool.eq_iff_iff, decide_eq_true_iff]
    exact hsaid.neighbors
  have hoff : i.noNeighbors = decide (lastSwitch argv = some false) := by
    rw [Bool.eq_iff_iff, decide_eq_true_iff]
    exact hsaid.noNeighbors
  rw [hon, hoff]
  cases lastSwitch argv with
  | none => rfl
  | some b => cases b <;> rfl

/-- The source of the plan is found on the first level that has one. -/
theorem Inspect.Says.source_eq (hsaid : i.Says argv) (settings : Settings) :
    i.source.source settings = match sourceFor? argv settings with
      | some source => .ok source
      | none => .error .noSource := by
  rw [SourceChoice.source, sourceFor?, hsaid.timeLimit_eq, hsaid.archive, hsaid.service,
    Settings.source?]
  cases valueOf? argv .archive <;> cases valueOf? argv .service <;> cases settings.archive <;>
    cases settings.service <;> rfl

/-- No ids were said if the list has no value for them. -/
theorem Inspect.Says.ids_eq_nil_iff (hsaid : i.Says argv) :
    i.targets.ids = [] ↔ valuesOf .id argv = [] := by
  rw [← List.map_eq_nil_iff (f := some), hsaid.ids, List.map_eq_nil_iff]

/-- There is nothing to plan if nothing is looked for. -/
theorem Inspect.Says.hasTarget_iff (hsaid : i.Says argv) (settings : Settings) :
    ((i.targets.query settings).isEmpty && !i.all) = true ↔ ¬HasTarget argv := by
  have hids : (i.targets.query settings).ids.isEmpty = true ↔ valuesOf .id argv = [] :=
    OrderedSet.isEmpty_ofList_iff.trans hsaid.ids_eq_nil_iff
  have hname : (i.targets.query settings).name.isNone = true ↔ valueOf? argv .name = none := by
    rw [Option.isNone_iff_eq_none, ← hsaid.name]
    rfl
  have hall : i.all = false ↔ "--all" ∉ argv := by
    rw [← hsaid.all, Bool.not_eq_true]
  rw [Query.isEmpty, HasTarget]
  simp only [Bool.and_eq_true, hids, hname, Bool.not_eq_true', hall, not_or, ne_eq,
    not_not, and_assoc]

/-- **The plan is what the argument list and the settings say.** -/
theorem Inspect.Says.plan_eq (hsaid : i.Says argv) (settings : Settings) :
    i.plan settings = match sourceFor? argv settings with
      | none => .error .noSource
      | some source =>
        if HasTarget argv then
          .ok
            { source
              request :=
                { center := i.tile
                  query := i.targets.query settings
                  includeNeighbors := (lastSwitch argv).getD settings.neighbors } }
        else .error .noTarget := by
  rw [Inspect.plan, hsaid.source_eq settings, hsaid.includeNeighbors_eq]
  cases sourceFor? argv settings with
  | none => rfl
  | some source =>
    by_cases htarget : HasTarget argv
    · have hlooks := mt (hsaid.hasTarget_iff settings).1 (not_not_intro htarget)
      simp only [if_pos htarget]
      show (if _ = true then _ else _) = _
      rw [if_neg hlooks]
      rfl
    · simp only [if_neg htarget]
      show (if _ = true then _ else _) = _
      rw [if_pos ((hsaid.hasTarget_iff settings).2 htarget)]
      rfl

/-- A plan is made if there is a source and something to look for, and it is the one that the list
and the settings say. -/
theorem Inspect.Says.plan_eq_ok_iff (hsaid : i.Says argv) {settings : Settings}
    {plan : InspectPlan} : i.plan settings = .ok plan ↔
      sourceFor? argv settings = some plan.source ∧ HasTarget argv ∧ plan.request =
        { center := i.tile
          query := i.targets.query settings
          includeNeighbors := (lastSwitch argv).getD settings.neighbors } := by
  rw [hsaid.plan_eq]
  cases hsource : sourceFor? argv settings with
  | none => simp
  | some source =>
    by_cases htarget : HasTarget argv
    · obtain ⟨source', request⟩ := plan
      simp [htarget, eq_comm]
    · simp [htarget]

/-- A timeout in a list that is read is a number. -/
theorem Inspect.Says.timeout_ne_none (hsaid : i.Says argv) {value : String}
    (h : value ∈ valuesOf .timeout argv) : Text.word64? value ≠ none := by
  have honce : (valuesOf .timeout argv).length = 1 :=
    le_antisymm (hsaid.once .timeout rfl (by decide)) (List.length_pos_of_mem h)
  obtain ⟨value', hvalues⟩ := List.length_eq_one_iff.1 honce
  have htimeout := hsaid.timeout
  rw [valueOf?, hvalues] at htimeout
  obtain rfl := List.mem_singleton.1 (hvalues ▸ h)
  intro hnone
  rw [List.head?_cons, Option.map_some, hnone] at htimeout
  cases hsource : i.source.timeout <;> rw [hsource] at htimeout <;> cases htimeout

/-! ## What the arguments go before -/

namespace AgreeBeyond

variable {s t : Settings}

/-- Settings that agree beyond the list lead to the same source. -/
theorem sourceFor?_eq (h : AgreeBeyond argv s t) (hsaid : i.Says argv) :
    sourceFor? argv s = sourceFor? argv t := by
  rw [sourceFor?, sourceFor?]
  cases harchive : valueOf? argv .archive with
  | some path => rfl
  | none =>
    have htime : timeLimit argv s = timeLimit argv t := by
      rw [hsaid.timeLimit_eq, hsaid.timeLimit_eq]
      cases htimeout : i.source.timeout with
      | some seconds => rfl
      | none =>
        have hvalue := hsaid.timeout
        rw [htimeout] at hvalue
        exact h.timeout harchive (Option.map_eq_none_iff.1 hvalue.symm)
    rw [htime]
    cases hservice : valueOf? argv .service with
    | some base => rfl
    | none => rw [h.archive harchive hservice, h.service harchive hservice]

/-- Settings that agree beyond the list lead to the same query. -/
theorem query_eq (h : AgreeBeyond argv s t) (hsaid : i.Says argv) :
    i.targets.query s = i.targets.query t := by
  rw [Targets.query, Targets.query, hsaid.layer]
  cases hlayer : valueOf? argv .layer with
  | some layer => rfl
  | none => rw [h.layer hlayer]

/-- Settings that agree beyond the list lead to the same tiles around. -/
theorem neighbors_eq (h : AgreeBeyond argv s t) :
    (lastSwitch argv).getD s.neighbors = (lastSwitch argv).getD t.neighbors := by
  cases hswitch : lastSwitch argv with
  | some b => rfl
  | none => exact h.neighbors hswitch

/-- Settings that agree beyond the list lead to the same plan. -/
theorem plan_eq (h : AgreeBeyond argv s t) (hsaid : i.Says argv) : i.plan s = i.plan t := by
  rw [hsaid.plan_eq, hsaid.plan_eq, h.sourceFor?_eq hsaid, h.query_eq hsaid, h.neighbors_eq]

end AgreeBeyond

/-- A plan that is made follows the list, and the settings beyond it. -/
theorem Inspect.Says.follows (hsaid : i.Says argv) {settings : Settings} {plan : InspectPlan}
    (h : i.plan settings = .ok plan) : plan.Follows argv settings := by
  obtain ⟨source, request⟩ := plan
  obtain ⟨hsource, -, hrequest⟩ := hsaid.plan_eq_ok_iff.1 h
  obtain rfl : request = _ := hrequest
  exact {
    source := hsource
    center := by
      obtain ⟨value, hvalue, htile⟩ := Option.map_eq_some_iff.1 hsaid.tile
      refine ⟨value, hvalue, ?_⟩
      cases hkey : TileKey.parse value <;> rw [hkey] at htile <;> cases htile
      rfl
    ids := ⟨i.targets.ids, hsaid.ids.symm, fun n => OrderedSet.mem_ofList⟩
    name := hsaid.name
    layer := by
      rw [← hsaid.layer]
      exact Option.orElse_eq_or
    neighbors := rfl
    keys := fun key => ScanRequest.mem_keys_iff
    ordered := (ScanRequest.pairwise_keys _).imp TileKey.compare_eq_lt_iff.1 }

/-- No plan is made if there is no source or nothing to look for. -/
theorem Inspect.Says.fails_iff (hsaid : i.Says argv) (settings : Settings) :
    (∃ e, i.plan settings = .error e) ↔ sourceFor? argv settings = none ∨ ¬HasTarget argv := by
  rw [hsaid.plan_eq]
  cases sourceFor? argv settings with
  | none => exact iff_of_true ⟨_, rfl⟩ (.inl rfl)
  | some source => by_cases htarget : HasTarget argv <;> simp [htarget]

/-- **Arguments go before settings, and the last switch decides.** In arguments that are read an
option with a value, other than `--id`, comes at most once, and a time limit is a number; of the two
switches for the tiles around only the last one of the list is set. There is no plan just if nothing
says where tiles come from or there is nothing to look for, and a plan follows the arguments and the
settings. It is the same for other settings that differ only where the arguments go before them. -/
theorem Inspect.plan_exact (h : Inspect.read everywhere argv = .ok i) (settings : Settings) :
    ((∀ o : OptionName, o.takesValue = true → o ≠ .id → (valuesOf o argv).length ≤ 1) ∧
      (∀ value ∈ valuesOf .timeout argv, Text.word64? value ≠ none) ∧
      (i.neighbors = true ↔ lastSwitch argv = some true) ∧
      (i.noNeighbors = true ↔ lastSwitch argv = some false) ∧
      ¬(i.neighbors = true ∧ i.noNeighbors = true)) ∧
    ((∃ e, i.plan settings = .error e) ↔ sourceFor? argv settings = none ∨ ¬HasTarget argv) ∧
    (∀ plan, i.plan settings = .ok plan → plan.Follows argv settings) ∧
    ∀ other, AgreeBeyond argv settings other → i.plan other = i.plan settings := by
  have hsaid := says_of_read h
  exact ⟨⟨hsaid.once, fun value => hsaid.timeout_ne_none, hsaid.neighbors, hsaid.noNeighbors,
    hsaid.not_both⟩, hsaid.fails_iff settings,
    fun plan => hsaid.follows, fun other hagree => (hagree.plan_eq hsaid).symm⟩

/-- Switches that alternate, with an archive among the arguments. -/
theorem Inspect.plan_exact_switches :
    ∃ i, Inspect.read [.verbose] ["--tile", "14/8/5", "--id=7", "--neighbors", "--id", "8",
        "--no-neighbors", "--neighbors", "--mbtiles", "a.mbtiles"] = .ok i ∧
      (∃ plan, i.plan {} = .ok plan ∧ plan.source = .archive "a.mbtiles" ∧
        plan.request.includeNeighbors = true) ∧
      i.plan { archive := some "b.mbtiles", timeout := 5, neighbors := true } = i.plan {} := by
  obtain ⟨i, hread⟩ : ∃ i, Inspect.read [.verbose] ["--tile", "14/8/5", "--id=7", "--neighbors",
      "--id", "8", "--no-neighbors", "--neighbors", "--mbtiles", "a.mbtiles"] = .ok i := ⟨_, rfl⟩
  obtain ⟨-, hfails, hfollows, hagree⟩ := Inspect.plan_exact hread {}
  refine ⟨i, hread, ?_, hagree _ ⟨nofun, nofun, nofun, fun _ => rfl, nofun⟩⟩
  cases hplan : i.plan {} with
  | error e => exact absurd (hfails.1 ⟨e, hplan⟩) (by decide)
  | ok plan =>
    obtain ⟨hsource, -, -, -, -, hneighbors, -⟩ := hfollows plan hplan
    exact ⟨plan, rfl, (Option.some.inj hsource).symm, hneighbors⟩

end Inspection

end TileScope.CommandLine
