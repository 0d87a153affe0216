import TileScope.Proofs.Ini.Writing
import TileScope.Proofs.Settings.Home
import TileScope.Proofs.Text.Ends
import TileScope.Proofs.Text.Numeral

/-!
# Loading settings again

Settings that were loaded can be written to a fresh document (`toDocument`) and loaded from there.
Most of them come out as they went in. The address of a service does not always: it is looked at
before the slashes at its end are dropped, and what is left may lack what was asked for.

| given address | loaded | loaded again |
| --- | --- | --- |
| `http://tiles/` | `http://tiles` | `http://tiles` |
| `http://` | `http:` | an error: no scheme |
| `http://tiles /` | `http://tiles` with a blank | `http://tiles` |

These are the only two ways in which loading again can differ, where the home directory is an
absolute path (`reload_exact`).
-/

namespace TileScope.Settings

/-- A fresh document with every setting that has a value. -/
def toDocument (s : Settings) : Ini.Document := .ofValues (s.entries.filter (·.2 ≠ ""))

/-- The text starts with the scheme of an address. -/
def HasScheme (url : String) : Prop :=
  Text.startsWith url "http://" = true ∨ Text.startsWith url "https://" = true

instance (url : String) : Decidable (HasScheme url) := inferInstanceAs (Decidable (_ ∨ _))

/-- The path is that of a setting. -/
def HasPath (s : Settings) (path : String) : Prop := s.archive = some path ∨ s.logFile = some path

variable {home name key value : String} {d : Ini.Document} {s : Settings}

/-! ## Reading what was written -/

/-- No setting is written twice. -/
theorem nodup_entries (s : Settings) : (s.entries.map (·.1)).Nodup := by
  have hkeys : s.entries.map (·.1) = [("archive", "path"), ("http", "base_url"),
    ("http", "timeout"), ("search", "layer"), ("search", "neighbors"), ("logging", "file")] := rfl
  rw [hkeys]
  decide

/-- A setting is found where it was written, if it was not empty. -/
theorem value?_toDocument (h : ((name, key), value) ∈ s.entries) :
    s.toDocument.value? name key = if value = "" then none else some value := by
  have hfilter : ((s.entries.filter (·.2 ≠ "")).map (·.1)).Nodup :=
    s.nodup_entries.sublist (List.filter_sublist.map _)
  ext raw
  rw [toDocument, Ini.Document.value?_ofValues hfilter, List.mem_filter, decide_eq_true_eq]
  constructor
  · rintro ⟨hmem, hne⟩
    obtain rfl : raw = value :=
      congrArg Prod.snd (List.inj_on_of_nodup_map s.nodup_entries hmem h rfl)
    exact if_neg hne
  · intro hraw
    obtain ⟨hne, rfl⟩ : value ≠ "" ∧ value = raw := by simpa using hraw
    exact ⟨h, hne⟩

/-- A setting is given again trimmed, if it is not blank. -/
theorem given?_toDocument (h : ((name, key), value) ∈ s.entries) :
    given? s.toDocument name key
      = if Text.trim value = "" then none else some (Text.trim value) := by
  have hempty : Text.trim "" = "" := rfl
  rw [given?, value?_toDocument h]
  by_cases hvalue : value = ""
  · rw [if_pos hvalue, hvalue, if_pos hempty]
    rfl
  · rw [if_neg hvalue, Option.map_some]
    split
    · next hblank => rw [hblank]; rfl
    · next hblank =>
      rw [Option.filter_some_pos]
      rw [Bool.not_eq_true', String.isEmpty_eq_false_iff]
      exact hblank

/-- A setting that is a text comes out as it went in if the rule takes it for what it is. -/
theorem read_toDocument_iff {o : Option String} (h : ((name, key), o.getD "") ∈ s.entries)
    {rule : String → Except ValueRule String} : read s.toDocument name key rule = .ok o ↔
      ∀ text, o = some text → Text.trim text ≠ "" ∧ rule (Text.trim text) = .ok text := by
  have hgiven := given?_toDocument h
  cases o with
  | none => exact iff_of_true (read_of_none hgiven) nofun
  | some text =>
    rw [Option.getD_some] at hgiven
    rw [read_eq_ok_iff, hgiven]
    by_cases hblank : Text.trim text = ""
    · rw [if_pos hblank]
      refine iff_of_false ?_ fun h => (h text rfl).1 hblank
      rintro (⟨-, h⟩ | ⟨_, _, h, -⟩) <;> cases h
    · rw [if_neg hblank]
      constructor
      · rintro (⟨h, -⟩ | ⟨_, _, h, hrule, htext⟩)
        · cases h
        · rintro _ ⟨⟩
          obtain rfl := Option.some.inj h
          exact ⟨hblank, hrule.trans (congrArg _ (Option.some.inj htext).symm)⟩
      · exact fun h => .inr ⟨_, text, rfl, (h text rfl).2, rfl⟩

/-- A time limit above zero is read from its digits. -/
theorem timeLimit?_toString {n : UInt64} (h : n ≠ 0) : timeLimit? (toString n.toNat) = .ok n := by
  have hnumeral : Text.unsigned? UInt64.size (toString n.toNat).toList = some n.toNat := by
    rw [Text.unsigned?_eq_some_iff]
    exact ⟨.plain (Nat.toList_repr ▸ Text.digits_padded 0 n.toNat), n.toNat_lt⟩
  have hword : Text.word64? (toString n.toNat) = some n := by
    rw [Text.word64?, hnumeral, Option.map_some]
    exact congrArg some (UInt64.ofNat_toNat)
  rw [timeLimit?, hword]
  exact if_neg h

/-- The digits of a number are neither empty nor with blanks at their ends. -/
theorem trim_toString (n : Nat) : Text.trim (toString n) = toString n ∧ toString n ≠ "" := by
  have hdigits : (toString n).toList = Nat.toDigits 10 n := Nat.toList_repr
  have hblank : ∀ c ∈ Nat.toDigits 10 n, Text.isBlank c = false := fun c hc =>
    Text.isBlank_of_isDigit (Nat.isDigit_of_mem_toDigits (by decide) (by decide) hc)
  constructor
  · rw [Text.trim, hdigits, Text.trimChars_eq_self_iff.2, ← hdigits, String.ofList_toList]
    exact ⟨fun c hc => hblank c (List.mem_of_mem_head? hc),
      fun c hc => hblank c (List.mem_of_mem_getLast? hc)⟩
  · intro h
    rw [h] at hdigits
    exact Nat.toDigits_ne_nil hdigits.symm

/-- A timeout is loaded again if it is not zero. -/
theorem loads_timeout_iff : (∃ t, read s.toDocument "http" "timeout" timeLimit? = .ok t ∧
    s.timeout = t.getD 30) ↔ s.timeout ≠ 0 := by
  have hentry : (("http", "timeout"), toString s.timeout.toNat) ∈ s.entries := by simp [entries]
  obtain ⟨htrim, hne⟩ := trim_toString s.timeout.toNat
  have hgiven := given?_toDocument hentry
  rw [htrim, if_neg hne] at hgiven
  rw [read_of_some hgiven]
  constructor
  · rintro ⟨t, ht, -⟩ hzero
    rw [hzero] at ht
    cases ht
  · intro h
    rw [timeLimit?_toString h]
    exact ⟨_, rfl, rfl⟩

/-- The switch for the tiles around is always loaded again. -/
theorem loads_neighbors (s : Settings) :
    ∃ n, read s.toDocument "search" "neighbors" switch? = .ok n ∧ s.neighbors = n.getD false := by
  have hentry : (("search", "neighbors"), if s.neighbors then "true" else "false") ∈ s.entries := by
    simp [entries]
  have htext : ∀ b : Bool,
      Text.trim (if b then "true" else "false") = (if b then "true" else "false")
      ∧ (if b then "true" else "false") ≠ "" ∧
      switch? (if b then "true" else "false") = .ok b := by decide
  obtain ⟨htrim, hne, hswitch⟩ := htext s.neighbors
  have hgiven := given?_toDocument hentry
  rw [htrim, if_neg hne] at hgiven
  exact ⟨some s.neighbors, by rw [read_of_some hgiven, hswitch]; rfl, rfl⟩

/-- **What comes out as it went in**, for any settings. -/
theorem loads_toDocument_iff : Loads home s.toDocument s ↔
    (∀ path, s.HasPath path →
      Text.trim path ≠ "" ∧ Path.expandHome home (Text.trim path) = path) ∧
    (∀ url, s.service = some url →
      Text.trim url ≠ "" ∧ address? (Text.trim url) = .ok url) ∧
    (∀ layer, s.layer = some layer → Text.trim layer ≠ "" ∧ Text.trim layer = layer) ∧
    s.timeout ≠ 0 := by
  have harchive : (("archive", "path"), s.archive.getD "") ∈ s.entries := by simp [entries]
  have hservice : (("http", "base_url"), s.service.getD "") ∈ s.entries := by simp [entries]
  have hlayer : (("search", "layer"), s.layer.getD "") ∈ s.entries := by simp [entries]
  have hlogFile : (("logging", "file"), s.logFile.getD "") ∈ s.entries := by simp [entries]
  constructor
  · intro h
    have hpath := (read_toDocument_iff harchive).1 h.archive
    have hlog := (read_toDocument_iff hlogFile).1 h.logFile
    refine ⟨fun path hset => ?_, (read_toDocument_iff hservice).1 h.service, fun layer hset => ?_,
      loads_timeout_iff.1 h.timeout⟩
    · obtain ⟨hne, hok⟩ := hset.elim (hpath path) (hlog path)
      exact ⟨hne, Except.ok.inj hok⟩
    · obtain ⟨hne, hok⟩ := (read_toDocument_iff hlayer).1 h.layer layer hset
      exact ⟨hne, Except.ok.inj hok⟩
  · rintro ⟨hpath, hurl, htext, htimeout⟩
    have hkept (path : String) (hset : s.HasPath path) : Text.trim path ≠ "" ∧
        (Except.ok (Path.expandHome home (Text.trim path)) : Except ValueRule String) = .ok path :=
      ⟨(hpath path hset).1, congrArg _ (hpath path hset).2⟩
    exact {
      archive := (read_toDocument_iff harchive).2 fun path h => hkept path (.inl h)
      service := (read_toDocument_iff hservice).2 hurl
      timeout := loads_timeout_iff.2 htimeout
      layer := (read_toDocument_iff hlayer).2 fun layer h =>
        ⟨(htext layer h).1, congrArg _ (htext layer h).2⟩
      neighbors := loads_neighbors s
      logFile := (read_toDocument_iff hlogFile).2 fun path h => hkept path (.inr h) }

/-! ## Addresses -/

/-- An address has a scheme if it begins with one of the two and two slashes. -/
theorem hasScheme_iff {url : String} : HasScheme url ↔
    "http:".toList ++ ['/', '/'] <+: url.toList ∨ "https:".toList ++ ['/', '/'] <+: url.toList := by
  rw [HasScheme, Text.startsWith, Text.startsWith, List.isPrefixOf_iff_prefix,
    List.isPrefixOf_iff_prefix]
  rfl

/-- Behind a scheme the slashes are dropped as far as they go, those of the scheme itself if nothing
else stands behind them. -/
theorem dropSlashes_scheme {scheme value : List Char} (hscheme : scheme.getLast? ≠ some '/')
    (h : scheme ++ ['/', '/'] <+: value) :
    Text.dropSlashes value = scheme ∨ scheme ++ ['/', '/'] <+: Text.dropSlashes value := by
  obtain ⟨rest, rfl⟩ := h
  rw [Text.dropSlashes_append, Text.dropSlashes_append]
  split
  · exact .inl (Text.dropSlashes_of_getLast? hscheme)
  · exact .inr (List.prefix_append _ _)

/-- **What is left of an address has its scheme** unless nothing but slashes stands behind it. -/
theorem hasScheme_dropSlashesEnd_iff {value : String} (h : HasScheme value) :
    HasScheme (Text.dropSlashesEnd value) ↔
      Text.dropSlashesEnd value ≠ "http:" ∧ Text.dropSlashesEnd value ≠ "https:" := by
  have hbare {scheme : String} (hdrop : Text.dropSlashes value.toList = scheme.toList) :
      Text.dropSlashesEnd value = scheme := by
    rw [Text.dropSlashesEnd, hdrop, String.ofList_toList]
  constructor
  · intro hscheme
    constructor <;> intro hurl <;> rw [hurl] at hscheme <;> revert hscheme <;> decide
  · rintro ⟨hhttp, hhttps⟩
    rw [hasScheme_iff] at h ⊢
    rw [Text.toList_dropSlashesEnd]
    refine h.imp (fun h => ?_) fun h => ?_
    · exact (dropSlashes_scheme (by decide) h).resolve_left fun hdrop => hhttp (hbare hdrop)
    · exact (dropSlashes_scheme (by decide) h).resolve_left fun hdrop => hhttps (hbare hdrop)

/-- However little is left of an address, it is not blank. -/
theorem mem_dropSlashesEnd {value : String} (h : HasScheme value) :
    'h' ∈ (Text.dropSlashesEnd value).toList := by
  have hmem {scheme : List Char} (hdrop : Text.dropSlashes value.toList = scheme ∨
      scheme ++ ['/', '/'] <+: Text.dropSlashes value.toList) (hscheme : 'h' ∈ scheme) :
      'h' ∈ Text.dropSlashes value.toList := by
    rcases hdrop with hdrop | hdrop
    · exact hdrop ▸ hscheme
    · exact hdrop.subset (List.mem_append_left _ hscheme)
  rw [Text.toList_dropSlashesEnd]
  rcases hasScheme_iff.1 h with h | h
  · exact hmem (dropSlashes_scheme (by decide) h) (by decide)
  · exact hmem (dropSlashes_scheme (by decide) h) (by decide)

/-- An address is loaded if it has a scheme, without the slashes at its end. -/
theorem address?_eq_ok_iff {value url : String} :
    address? value = .ok url ↔ HasScheme value ∧ Text.dropSlashesEnd value = url := by
  rw [address?, HasScheme, ← Bool.or_eq_true]
  split
  · next h => exact ⟨fun hok => ⟨h, Except.ok.inj hok⟩, fun hok => congrArg _ hok.2⟩
  · next h => exact ⟨nofun, fun hok => absurd hok.1 h⟩

/-- Neither trimming nor dropping slashes makes a text longer, so a text that comes out of both
comes out of each. -/
theorem trimChars_of_dropSlashes {cs : List Char}
    (h : Text.dropSlashes (Text.trimChars cs) = cs) : Text.trimChars cs = cs := by
  obtain ⟨front, back, hcs, -, -⟩ := Text.exists_trimChars cs
  obtain ⟨n, htrim⟩ := Text.exists_dropSlashes (Text.trimChars cs)
  rw [h] at htrim
  have hlength := congrArg List.length hcs
  rw [htrim] at hlength
  simp only [List.length_append, List.length_replicate] at hlength
  obtain rfl : n = 0 := by omega
  rw [htrim, List.replicate_zero, List.append_nil]

/-- An address without slashes at its end is read as it is if it has a scheme and no blanks at its
ends. -/
theorem address?_trim_iff {url : String} (h : url.toList.getLast? ≠ some '/') :
    Text.trim url ≠ "" ∧ address? (Text.trim url) = .ok url ↔
      HasScheme url ∧ Text.trim url = url := by
  rw [address?_eq_ok_iff]
  constructor
  · rintro ⟨-, hscheme, hdrop⟩
    have hsame : Text.dropSlashes (Text.trimChars url.toList) = url.toList := by
      have := congrArg String.toList hdrop
      rwa [Text.dropSlashesEnd, Text.trim, String.toList_ofList, String.toList_ofList] at this
    have htrim : Text.trim url = url := by
      rw [Text.trim, trimChars_of_dropSlashes hsame, String.ofList_toList]
    exact ⟨htrim ▸ hscheme, htrim⟩
  · rintro ⟨hscheme, htrim⟩
    rw [htrim, Text.dropSlashesEnd, Text.dropSlashes_of_getLast? h, String.ofList_toList]
    refine ⟨?_, hscheme, rfl⟩
    rintro rfl
    revert hscheme
    decide

/-- What is left of an address without blanks has none in front. -/
theorem trim_dropSlashesEnd_iff {value : String} (h : Text.trim value = value) :
    Text.trim (Text.dropSlashesEnd value) = Text.dropSlashesEnd value ↔
      ∀ c ∈ (Text.dropSlashesEnd value).toList.getLast?, Text.isBlank c = false := by
  obtain ⟨n, hn⟩ := Text.exists_dropSlashes value.toList
  have hfirst : ∀ c ∈ (Text.dropSlashesEnd value).toList.head?, Text.isBlank c = false := by
    intro c hc
    rw [Text.toList_dropSlashesEnd] at hc
    refine (Text.trim_eq_self_iff.1 h).1 c ?_
    rw [hn, List.head?_append, Option.mem_def.1 hc]
    rfl
  rw [Text.trim_eq_self_iff]
  exact and_iff_right hfirst

/-! ## Loaded settings -/

namespace Loads

/-- A service that was loaded is such an address without its last slashes. -/
theorem service_of_some (h : Loads home d s) {url : String} (hurl : s.service = some url) :
    ∃ value, Text.trim value = value ∧ HasScheme value ∧ Text.dropSlashesEnd value = url := by
  rcases read_eq_ok_iff.1 h.service with ⟨-, hnone⟩ | ⟨value, _, hgiven, hrule, hsome⟩
  · rw [hurl] at hnone
    cases hnone
  · obtain rfl := Option.some.inj (hurl.symm.trans hsome)
    exact ⟨value, (trim_of_given hgiven).2, address?_eq_ok_iff.1 hrule⟩

/-- A layer that was loaded is neither empty nor with blanks at its ends. -/
theorem layer_of_some (h : Loads home d s) {layer : String} (hlayer : s.layer = some layer) :
    layer ≠ "" ∧ Text.trim layer = layer := by
  rcases read_eq_ok_iff.1 h.layer with ⟨-, hnone⟩ | ⟨value, _, hgiven, hrule, hsome⟩
  · rw [hlayer] at hnone
    cases hnone
  · obtain rfl := Except.ok.inj hrule
    obtain rfl := Option.some.inj (hlayer.symm.trans hsome)
    exact trim_of_given hgiven

/-- A timeout that was loaded is not zero. -/
theorem timeout_ne_zero (h : Loads home d s) : s.timeout ≠ 0 := by
  obtain ⟨t, ht, hs⟩ := h.timeout
  rw [hs]
  rcases read_eq_ok_iff.1 ht with ⟨-, rfl⟩ | ⟨value, n, -, hrule, rfl⟩
  · decide
  · rw [timeLimit?] at hrule
    split at hrule
    · cases hrule
    · split at hrule
      · cases hrule
      · next hn =>
        obtain rfl := Except.ok.inj hrule
        exact hn

/-- A path that was loaded is one that was given, expanded. -/
theorem path_of_hasPath (h : Loads home d s) {path : String} (hpath : s.HasPath path) :
    ∃ value, value ≠ "" ∧ Text.trim value = value ∧ Path.expandHome home value = path := by
  have hread {name key : String} {o : Option String} (ho : o = some path)
      (hread : read d name key (fun v => .ok (Path.expandHome home v)) = .ok o) :
      ∃ value, value ≠ "" ∧ Text.trim value = value ∧ Path.expandHome home value = path := by
    rw [read_ok, ho, Except.ok.injEq, Option.map_eq_some_iff] at hread
    obtain ⟨value, hgiven, hvalue⟩ := hread
    exact ⟨value, (trim_of_given hgiven).1, (trim_of_given hgiven).2, hvalue⟩
  exact hpath.elim (hread · h.archive) (hread · h.logFile)

end Loads

/-- Under an absolute home directory, a path that was expanded is not expanded again. -/
theorem expandHome_kept (hhome : Path.isAbsolute home.toList = true) (hne : value ≠ "")
    (htrim : Text.trim value = value) :
    let path := Path.expandHome home value
    path ≠ "" ∧ Text.trim path = path ∧ Path.expandHome home path = path := by
  intro path
  have hhome_ne : home ≠ "" := by
    rintro rfl
    cases hhome
  cases htilde : Text.startsWith value "~/" with
  | false =>
    have hpath : path = value := Path.expandHome_of_startsWith htilde
    rw [hpath]
    exact ⟨hne, htrim, hpath⟩
  | true =>
    obtain ⟨rest, hrest⟩ := List.isPrefixOf_iff_prefix.1 htilde
    have hvalue : value = "~/" ++ String.ofList rest := by
      rw [← String.toList_inj, ← hrest, String.toList_append]
      exact congrArg _ String.toList_ofList.symm
    have hpath : path = Path.join home (String.ofList rest) := by
      rw [← Path.expandHome_tilde, ← hvalue]
    have habsolute : Path.isAbsolute path.toList = true := hpath ▸ Path.isAbsolute_join hhome
    obtain ⟨tail, htail⟩ := Path.isAbsolute_iff.1 habsolute
    refine ⟨?_, Text.trim_eq_self_iff.2 ⟨fun c hc => ?_, fun c hc => ?_⟩,
      Path.expandHome_of_isAbsolute habsolute⟩
    · intro h
      rw [h] at habsolute
      cases habsolute
    · rw [htail] at hc
      cases hc
      rfl
    · obtain ⟨front, hfront, hslash⟩ := Path.exists_toList_join hhome_ne (String.ofList rest)
      rw [hpath, hfront, String.toList_ofList, Option.mem_def, List.getLast?_append] at hc
      -- The last character is that of the value, or the slash behind the home.
      cases hlast : rest.getLast? with
      | none =>
        obtain rfl := List.getLast?_eq_none_iff.1 hlast
        rw [hslash rfl] at hc
        cases hc
        rfl
      | some last =>
        rw [hlast] at hc
        cases hc
        refine (Text.trim_eq_self_iff.1 htrim).2 c ?_
        rw [← hrest, Option.mem_def, List.getLast?_append, hlast]
        rfl

/-- **What becomes of settings that are loaded again.** They come out as they went in if and only if
the address still has its scheme and no blanks at its ends and no path changes; under an absolute
home directory no path does. An address that was loaded lacks its scheme if and only if nothing but
slashes stood behind the scheme, and it has a blank at an end if and only if one stood in front of
the slashes at its end. Whatever the document, an address has no slash at its end and is not blank,
a layer is not blank either, and the time limit is not zero. -/
theorem reload_exact (h : ofDocument home d = .ok s) :
    (ofDocument home s.toDocument = .ok s ↔
      (∀ url, s.service = some url → HasScheme url ∧ Text.trim url = url) ∧
      ∀ path, s.HasPath path →
        Text.trim path ≠ "" ∧ Path.expandHome home (Text.trim path) = path) ∧
    (∀ url, s.service = some url →
      (HasScheme url ↔ url ≠ "http:" ∧ url ≠ "https:") ∧
      (Text.trim url = url ↔ ∀ c ∈ url.toList.getLast?, Text.isBlank c = false) ∧
      url.toList.getLast? ≠ some '/' ∧ Text.trim url ≠ "") ∧
    (Path.isAbsolute home.toList = true → ∀ path, s.HasPath path →
      path ≠ "" ∧ Text.trim path = path ∧ Path.expandHome home path = path) ∧
    (∀ layer, s.layer = some layer → layer ≠ "" ∧ Text.trim layer = layer) ∧
    0 < s.timeout := by
  have hloads := ofDocument_eq_ok_iff.1 h
  have hslash (url : String) (hurl : s.service = some url) : url.toList.getLast? ≠ some '/' := by
    obtain ⟨value, -, -, rfl⟩ := hloads.service_of_some hurl
    rw [Text.dropSlashesEnd, String.toList_ofList]
    exact Text.getLast?_dropSlashes _
  refine ⟨?_, fun url hurl => ⟨?_, ?_, hslash url hurl, ?_⟩, fun hhome path hpath => ?_,
    fun layer hlayer => hloads.layer_of_some hlayer,
    UInt64.pos_iff_ne_zero.2 hloads.timeout_ne_zero⟩
  · rw [ofDocument_eq_ok_iff, loads_toDocument_iff]
    constructor
    · rintro ⟨hpaths, hservice, -, -⟩
      exact ⟨fun url hurl => (address?_trim_iff (hslash url hurl)).1 (hservice url hurl), hpaths⟩
    · rintro ⟨hservice, hpaths⟩
      refine ⟨hpaths, fun url hurl => (address?_trim_iff (hslash url hurl)).2 (hservice url hurl),
        fun layer hlayer => ?_, hloads.timeout_ne_zero⟩
      obtain ⟨hne, htrim⟩ := hloads.layer_of_some hlayer
      exact ⟨htrim.symm ▸ hne, htrim⟩
  · obtain ⟨value, -, hscheme, rfl⟩ := hloads.service_of_some hurl
    exact hasScheme_dropSlashesEnd_iff hscheme
  · obtain ⟨value, htrim, -, rfl⟩ := hloads.service_of_some hurl
    exact trim_dropSlashesEnd_iff htrim
  · obtain ⟨value, -, hscheme, rfl⟩ := hloads.service_of_some hurl
    exact Text.trim_ne_empty (mem_dropSlashesEnd hscheme) (by decide)
  · obtain ⟨value, hne, htrim, rfl⟩ := hloads.path_of_hasPath hpath
    exact expandHome_kept hhome hne htrim

/-- Settings of every kind that come out as they went in. -/
theorem reload_exact_full :
    let d : Ini.Document := .ofItems [.heading "archive", .property "path" " ~/planet.mbtiles",
      .heading "http", .property "base_url" "https://tiles.example.com/v3//",
      .property "timeout" "+05", .heading "search", .property "layer" "poi",
      .property "neighbors" "Yes", .heading "logging", .property "file" "~//var/log/tiles"]
    ∃ s, ofDocument "/home/u" d = .ok s ∧ ofDocument "/home/u" s.toDocument = .ok s := by
  intro d
  have hload : ofDocument "/home/u" d = .ok
      { archive := some "/home/u/planet.mbtiles"
        service := some "https://tiles.example.com/v3"
        timeout := 5
        layer := some "poi"
        neighbors := true
        logFile := some "/var/log/tiles" } := by
    decide
  obtain ⟨hiff, -, hpaths, -⟩ := reload_exact hload
  refine ⟨_, hload, hiff.2 ⟨?_, fun path hpath => ?_⟩⟩
  · rintro _ ⟨⟩
    decide
  · obtain ⟨hne, htrim, hkept⟩ := hpaths (by decide) path hpath
    rw [htrim]
    exact ⟨hne, hkept⟩

/-- An address of a scheme and slashes alone is loaded, but not loaded again; one with a blank in
front of its last slash loses the blank when it is loaded again. -/
theorem not_reloaded :
    (∃ s, ofBytes "/home/oracle" "[http]\nbase_url = http://\n".toUTF8 = .ok s ∧
      s.service = some "http:" ∧ ofDocument "/home/oracle" s.toDocument
        = .error (.invalid "http" "base_url" "http:" .scheme)) ∧
    ∃ s, ofBytes "/home/oracle" "[http]\nbase_url = http://a /\n".toUTF8 = .ok s ∧
      s.service = some "http://a " ∧ ofDocument "/home/oracle" s.toDocument
        = .ok { s with service := some "http://a" } := by
  refine ⟨⟨{ service := some "http:" }, ?_, rfl, by decide⟩,
    ⟨{ service := some "http://a " }, ?_, rfl, by decide⟩⟩
  · cbv
  · cbv

end TileScope.Settings
