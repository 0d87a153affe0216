import TileScope.CommandLine.Run
import TileScope.Proofs.Settings.Reload
import TileScope.Proofs.Store.Backends

/-!
# Base addresses

The base address of a tile service comes from the settings or from the arguments. In the settings it
loses the slashes at its end when it is loaded, and then once more when the service is opened; among
the arguments only then. Dropping them twice is dropping them once, so both name the same service
(`baseAddress_exact`).

| base address | description | address of the tile `1/0/1` |
| --- | --- | --- |
| `http://tiles/a//b//` | `http://tiles/a//b` | `http://tiles/a//b/1/0/1` |
| `http://` | `http:` | `http:/1/0/1` |
| `//` | none | `/1/0/1` |
-/

namespace TileScope

namespace Service

variable {base other : String}

/-- Only what is left without the slashes at the end counts for the address of a tile. -/
theorem tileAddress_congr (h : Text.dropSlashesEnd base = Text.dropSlashesEnd other)
    (key : TileKey) : tileAddress base key = tileAddress other key := by
  rw [tileAddress, tileAddress, h]

/-- Nor does anything else count for the store. -/
theorem store_congr (h : Text.dropSlashesEnd base = Text.dropSlashesEnd other) (client : Client) :
    store base client = store other client := by
  rw [store, store, h, funext fun key => congrArg client (tileAddress_congr h key)]

/-- The time limit does not count for what a source is either. -/
theorem openSource_congr {m : Type → Type} [Monad m] (host : CommandLine.Host m)
    (h : Text.dropSlashesEnd base = Text.dropSlashesEnd other) (timeout timeout' : UInt64) :
    host.openSource (.service base timeout) = host.openSource (.service other timeout') :=
  congrArg (fun store => (pure store : ExceptT CommandLine.Problem m Store))
    (store_congr h (client host.transport))

end Service

/-- A base address that is given and valid is loaded without the slashes at its end. -/
theorem Settings.Loads.service_of_value {home value : String} {d : Ini.Document} {s : Settings}
    (h : Loads home d s) (hvalue : d.value? "http" "base_url" = some value)
    (hblank : Text.trim value ≠ "") : s.service = some (Text.dropSlashesEnd (Text.trim value)) := by
  have hgiven : given? d "http" "base_url" = some (Text.trim value) :=
    given?_eq_some_iff.2 ⟨hblank, value, hvalue, rfl⟩
  rcases read_eq_ok_iff.1 h.service with ⟨hnone, -⟩ | ⟨_, url, hsome, hrule, hservice⟩
  · rw [hgiven] at hnone
    cases hnone
  · obtain rfl := Option.some.inj (hgiven.symm.trans hsome)
    rw [hservice, (address?_eq_ok_iff.1 hrule).2]

namespace CommandLine.SourceChoice

variable {c : SourceChoice} {s : Settings} {base : String}

/-- Without a source among the arguments, the service is that of the settings. -/
theorem source_of_settings (harchive : c.archive = none) (hservice : c.service = none)
    (hnone : s.archive = none) (hbase : s.service = some base) :
    c.source s = .ok (.service base (c.timeout.getD s.timeout)) := by
  simp only [source, Settings.source?, harchive, hservice, hnone, hbase]

/-- A service among the arguments goes before the settings. -/
theorem source_of_service (harchive : c.archive = none) (hservice : c.service = some base)
    (s : Settings) : c.source s = .ok (.service base (c.timeout.getD s.timeout)) := by
  simp only [source, harchive, hservice]

end CommandLine.SourceChoice

namespace Service

open CommandLine (SourceChoice Host)

/-- **A base address means the same in the settings and among the arguments, and addresses tell
tiles apart.** What is loaded of a value for the base address and the value without the blanks at
its ends give every tile the same address, and both sources, whatever else the settings and the
arguments say, open as the same store on every machine. However many slashes are put behind a base
address, it makes no difference; the description is the base address without the slashes at its end,
and a tile is asked for under the description, a slash and its key. Under no base address do two
tiles have the same address. -/
theorem baseAddress_exact :
    (∀ (home : String) (d : Ini.Document) (s : Settings) (value : String),
      Settings.ofDocument home d = .ok s → d.value? "http" "base_url" = some value →
      Text.trim value ≠ "" → ∃ base, s.service = some base ∧
        (∀ key, tileAddress base key = tileAddress (Text.trim value) key) ∧
        (∀ client, store base client = store (Text.trim value) client) ∧
        (s.archive = none → ∀ c : SourceChoice, c.archive = none → c.service = none →
          ∀ (c' : SourceChoice) (s' : Settings), c'.archive = none →
          c'.service = some (Text.trim value) → ∃ timeout timeout',
            c.source s = .ok (.service base timeout) ∧
            c'.source s' = .ok (.service (Text.trim value) timeout') ∧
            ∀ (m : Type → Type) [Monad m] (host : Host m),
              host.openSource (.service base timeout)
                = host.openSource (.service (Text.trim value) timeout'))) ∧
    (∀ base n, (∀ key, tileAddress (base ++ String.ofList (List.replicate n '/')) key
        = tileAddress base key) ∧
      ∀ client, store (base ++ String.ofList (List.replicate n '/')) client = store base client) ∧
    (∀ base client, (∃ n, base
        = (store base client).description ++ String.ofList (List.replicate n '/')) ∧
      (store base client).description.toList.getLast? ≠ some '/' ∧
      ∀ key, (store base client).get key = client (tileAddress base key) ∧
        tileAddress base key = (store base client).description ++ "/" ++ key.render) ∧
    ∀ base key key', tileAddress base key = tileAddress base key' → key = key' := by
  refine ⟨fun home d s value hload hvalue hblank => ?_, fun base n => ?_, fun base client => ?_,
    fun base key key' h => tileAddress_injective base h⟩
  · have hbase := (Settings.ofDocument_eq_ok_iff.1 hload).service_of_value hvalue hblank
    have hsame := Text.dropSlashesEnd_dropSlashesEnd (Text.trim value)
    refine ⟨_, hbase, tileAddress_congr hsame, store_congr hsame, ?_⟩
    intro hnone c harchive hservice c' s' harchive' hservice'
    refine ⟨c.timeout.getD s.timeout, c'.timeout.getD s'.timeout, ?_, ?_, fun m _ host =>
      openSource_congr host hsame _ _⟩
    · exact SourceChoice.source_of_settings harchive hservice hnone hbase
    · exact SourceChoice.source_of_service harchive' hservice' s'
  · have hsame := Text.dropSlashesEnd_append_slashes base n
    exact ⟨tileAddress_congr hsame, store_congr hsame⟩
  · exact ⟨Text.exists_dropSlashesEnd base, Text.getLast?_dropSlashesEnd base,
      fun key => ⟨rfl, rfl⟩⟩

/-- A scheme alone, which loses its own slashes in the settings and among the arguments. -/
theorem baseAddress_exact_bare :
    let d : Ini.Document := .ofItems [.heading "http", .property "base_url" " http:// "]
    let s : Settings := { service := some "http:" }
    let c : SourceChoice := { timeout := some 5 }
    let south : TileKey := ⟨1, 0, 1, by decide, by decide, by decide⟩
    Settings.ofDocument "/home/u" d = .ok s ∧ d.value? "http" "base_url" = some " http:// " ∧
      tileAddress "http:" south = "http:/1/0/1" ∧ tileAddress "http://" south = "http:/1/0/1" ∧
      ∃ timeout timeout', c.source s = .ok (.service "http:" timeout) ∧
        { c with service := some "http://" }.source s = .ok (.service "http://" timeout') ∧
        ∀ (m : Type → Type) [Monad m] (host : Host m),
          host.openSource (.service "http:" timeout)
            = host.openSource (.service "http://" timeout') := by
  intro d s c south
  have hload : Settings.ofDocument "/home/u" d = .ok s := by decide
  have hvalue : d.value? "http" "base_url" = some " http:// " := by decide
  obtain ⟨base, hbase, haddress, -, hopen⟩ :=
    baseAddress_exact.1 "/home/u" d s " http:// " hload hvalue (by decide)
  obtain rfl : "http:" = base := Option.some.inj hbase
  have hsouth : tileAddress "http:" south = "http:/1/0/1" := by decide
  exact ⟨hload, hvalue, hsouth, (haddress south).symm.trans hsouth,
    hopen rfl c rfl rfl { c with service := some "http://" } s rfl rfl⟩

end Service

end TileScope
