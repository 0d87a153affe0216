import TileScope.Proofs.Settings.Loading
import TileScope.Proofs.Text.Pieces

/-!
# Paths under the home directory

A path that is set may begin with a tilde and a slash for the home directory.

| value | path, with home `/home/u` |
| --- | --- |
| `~/a//b` | `/home/u/a//b`, whose parts are those of the home directory and then `a`, `b` |
| `~/` | `/home/u/` |
| `~//a` | `/a`: what follows the tilde is an absolute path and takes the place of all |
| `a`, `~a`, `~` | as written |

**A path with a tilde is under the home directory if and only if what follows the tilde and the
slash is not absolute**, or the home directory is the root (`paths_exact`).
-/

namespace TileScope

namespace Path

/-- The parts that a path names, wherever it starts from. -/
def names (path : String) : List PathPart := (Text.pieces '/' path.toList).filterMap part?

variable {home path rest : String}

/-- A path is absolute if it begins with a slash. -/
theorem isAbsolute_iff {path : List Char} :
    isAbsolute path = true ↔ ∃ rest, path = '/' :: rest := by
  rw [isAbsolute, decide_eq_true_eq, List.head?_eq_some_iff]

/-- The parts of a path are where it starts from and what it names. -/
theorem parts_eq (path : String) : parts path
    = (if isAbsolute path.toList = true then [.root]
      else if (Text.pieces '/' path.toList).head? = some ['.'] then [.here] else []) ++
        names path := by
  rw [parts, names]
  cases hpieces : Text.pieces '/' path.toList with
  | nil => exact absurd hpieces (Text.pieces_ne_nil _ _)
  | cons first rest =>
    simp only [List.head?_cons, Option.some.injEq]
    split
    · next habsolute =>
      obtain ⟨tail, htail⟩ := isAbsolute_iff.1 habsolute
      rw [htail, Text.pieces, if_pos rfl] at hpieces
      rw [← (List.cons.inj hpieces).1]
      rfl
    · by_cases hdot : first = ['.']
      · rw [if_pos hdot, if_pos hdot, hdot]
        rfl
      · rw [if_neg hdot, if_neg hdot, List.nil_append, List.filterMap_cons]
        cases part? first <;> rfl

/-- An absolute path starts at the root. -/
theorem parts_of_isAbsolute (h : isAbsolute path.toList = true) :
    parts path = .root :: names path := by
  rw [parts_eq, if_pos h, List.singleton_append]

/-- What stands behind a slash is named after what stands in front of it. -/
theorem filterMap_pieces_append_slash (front back : List Char) :
    (Text.pieces '/' (front ++ '/' :: back)).filterMap part?
      = (Text.pieces '/' front).filterMap part? ++ (Text.pieces '/' back).filterMap part? := by
  rw [Text.pieces_append_mark, List.filterMap_append]

/-- A path joined to a home has the names of both. -/
theorem names_join (hhome : home ≠ "") (hrest : isAbsolute rest.toList = false) :
    names (join home rest) = names home ++ names rest := by
  rw [join, hrest, if_neg Bool.false_ne_true]
  split
  · next hslash =>
    rw [String.isEmpty_eq_false_iff.2 hhome, Bool.false_or, decide_eq_true_eq,
      List.getLast?_eq_some_iff] at hslash
    obtain ⟨front, hfront⟩ := hslash
    rw [names, names, names, String.toList_append, hfront, List.append_assoc,
      List.singleton_append, filterMap_pieces_append_slash, filterMap_pieces_append_slash]
    rw [show (Text.pieces '/' []).filterMap part? = [] from rfl, List.append_nil]
  · rw [names, String.toList_append, String.toList_append, List.append_assoc]
    exact filterMap_pieces_append_slash _ _

/-- A path joined to an absolute home is absolute. -/
theorem isAbsolute_join (hhome : isAbsolute home.toList = true) :
    isAbsolute (join home rest).toList = true := by
  obtain ⟨front, hfront⟩ := isAbsolute_iff.1 hhome
  rw [join]
  split
  · assumption
  · split <;> simp only [String.toList_append, hfront, List.cons_append] <;> rfl

/-- What is joined ends in the path, or in a slash if the path is empty. -/
theorem exists_toList_join (hhome : home ≠ "") (rest : String) : ∃ front,
    (join home rest).toList = front ++ rest.toList ∧ (rest = "" → front.getLast? = some '/') := by
  rw [join]
  split
  · next habsolute =>
    refine ⟨[], rfl, ?_⟩
    rintro rfl
    cases habsolute
  · split
    · next hslash =>
      rw [String.isEmpty_eq_false_iff.2 hhome, Bool.false_or, decide_eq_true_eq] at hslash
      exact ⟨home.toList, String.toList_append, fun _ => hslash⟩
    · exact ⟨home.toList ++ ['/'], by simp only [String.toList_append]; rfl,
        fun _ => List.getLast?_concat⟩

/-- Behind a tilde and a slash the path is joined to the home. -/
theorem expandHome_tilde (home rest : String) :
    expandHome home ("~/" ++ rest) = join home rest := by
  have htilde : ("~/" ++ rest).toList = '~' :: '/' :: rest.toList := String.toList_append
  rw [expandHome, htilde]
  exact congrArg (join home) String.ofList_toList

/-- Any other path stays as it is. -/
theorem expandHome_of_startsWith (h : Text.startsWith path "~/" = false) :
    expandHome home path = path := by
  rw [expandHome]
  split
  · next rest hrest =>
    rw [Text.startsWith, hrest] at h
    cases h
  · rfl

/-- An absolute path has no tilde to expand. -/
theorem expandHome_of_isAbsolute (h : isAbsolute path.toList = true) :
    expandHome home path = path := by
  obtain ⟨rest, hrest⟩ := isAbsolute_iff.1 h
  refine expandHome_of_startsWith ?_
  rw [Text.startsWith, hrest]
  rfl

end Path

namespace Settings

/-- **Where a path with a tilde leads.** For a home directory that is absolute and both settings
that are paths: where the value is a tilde, a slash and a rest, the parts of the path are those of
the home directory with the names of the rest behind them if and only if the rest is not absolute or
the home directory is the root; an absolute rest is itself the path. Any other value is the path as
it is written. -/
theorem paths_exact {home : String} (hhome : Path.isAbsolute home.toList = true)
    {d : Ini.Document} {s : Settings} (h : ofDocument home d = .ok s) :
    ∀ setting ∈ [(("archive", "path"), s.archive), (("logging", "file"), s.logFile)],
      ∀ value, given? d setting.1.1 setting.1.2 = some value → ∃ path, setting.2 = some path ∧
        (∀ rest, value = "~/" ++ rest →
          (Path.parts path = Path.parts home ++ Path.names rest ↔
            Path.isAbsolute rest.toList = false ∨ Path.names home = []) ∧
          (Path.isAbsolute rest.toList = true → path = rest)) ∧
        (Text.startsWith value "~/" = false → path = value) := by
  have hloads := ofDocument_eq_ok_iff.1 h
  have hne : home ≠ "" := by
    rintro rfl
    cases hhome
  intro setting hsetting value hvalue
  have hpath : setting.2 = some (Path.expandHome home value) := by
    have harchive := hloads.archive
    have hlogFile := hloads.logFile
    rw [read_ok, Except.ok.injEq] at harchive hlogFile
    rcases List.mem_cons.1 hsetting with rfl | hsetting
    · exact harchive.symm.trans (congrArg _ hvalue)
    · obtain rfl := List.mem_singleton.1 hsetting
      exact hlogFile.symm.trans (congrArg _ hvalue)
  refine ⟨_, hpath, fun rest hrest => ?_, fun hplain => Path.expandHome_of_startsWith hplain⟩
  rw [hrest, Path.expandHome_tilde]
  cases habsolute : Path.isAbsolute rest.toList with
  | false =>
    refine ⟨iff_of_true ?_ (.inl rfl), nofun⟩
    rw [Path.parts_of_isAbsolute (Path.isAbsolute_join hhome), Path.names_join hne habsolute,
      Path.parts_of_isAbsolute hhome, List.cons_append]
  | true =>
    have hjoin : Path.join home rest = rest := if_pos habsolute
    refine ⟨?_, fun _ => hjoin⟩
    rw [hjoin, Path.parts_of_isAbsolute habsolute, Path.parts_of_isAbsolute hhome,
      List.cons_append, List.cons.injEq, List.self_eq_append_left]
    simp

/-- A rest that is not absolute, one that is, and what comes of each. -/
theorem paths_exact_both :
    let d : Ini.Document := .ofItems [.heading "archive", .property "path" "~/tiles/./a.mbtiles",
      .heading "logging", .property "file" "~//var/log/tiles"]
    ∃ s, ofDocument "/home/u" d = .ok s ∧
      (∃ path, s.archive = some path ∧
        Path.parts path = [.root, .name "home", .name "u", .name "tiles", .name "a.mbtiles"]) ∧
      s.logFile = some "/var/log/tiles" := by
  intro d
  have hload : ofDocument "/home/u" d = .ok
      { archive := some "/home/u/tiles/./a.mbtiles", logFile := some "/var/log/tiles" } := by
    decide
  have hpaths := paths_exact (by decide) hload
  obtain ⟨path, harchive, hparts, -⟩ := hpaths _ List.mem_cons_self
    "~/tiles/./a.mbtiles" (by decide)
  obtain ⟨log, hlog, hrest, -⟩ := hpaths _ (List.mem_cons_of_mem _ List.mem_cons_self)
    "~//var/log/tiles" (by decide)
  refine ⟨_, hload, ⟨path, harchive, ?_⟩, ?_⟩
  · rw [(hparts "tiles/./a.mbtiles" (by decide)).1.2 (.inl (by decide))]
    decide
  · exact hlog.trans (congrArg some ((hrest "/var/log/tiles" (by decide)).2 (by decide)))

/-- A path whose slash behind the tilde comes twice is not under the home directory. -/
theorem not_under_home : ∃ s path,
    ofBytes "/home/oracle" "[archive]\npath = ~//data/planet.mbtiles\n".toUTF8 = .ok s ∧
      s.archive = some path ∧ ¬Path.parts "/home/oracle" <+: Path.parts path := by
  refine ⟨{ archive := some "/data/planet.mbtiles" }, "/data/planet.mbtiles", ?_, rfl, by decide⟩
  cbv

end Settings

end TileScope
