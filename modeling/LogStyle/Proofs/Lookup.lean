import LogStyle.Config.Lookup
import LogStyle.Proofs.Upwards
import LogStyle.Proofs.Writing

/-!
# Where a configuration is found

On the way up from a target the first directory with a configuration file of a project gives the
configuration, unless the top of a project lies below it.

* `ConfigSource.Nearest`: the file of the nearest directory that offers one.
* `ConfigSource.search_eq_some_iff`: a search ends with the nearest file.
* `ConfigSource.find_exact`: **where a configuration is found, for each target.**
* `ConfigSource.find_file_iff`: **a file is checked with the configuration of its directory, unless
  it is named without any directory and its project has a configuration.**
-/

namespace LogStyle

namespace ConfigSource

variable {fs : FileSystem} {target file directory path : String} {chain : List String}
  {explicitPath globalDirectory : Option String} {place : Place} {name : String} {content : Content}

/-! ## The nearest file -/

/-- The directory holds a configuration file of a project. -/
def Holds (fs : FileSystem) (directory : String) : Prop :=
  fs.isFile (Path.join directory "logmsglint.toml") = true ∨
    fs.isFile (Path.join directory ".logmsglint.toml") = true

/-- The directory is marked as the top of a project. -/
def Marked (fs : FileSystem) (directory : String) : Prop :=
  fs.exists? (Path.join directory "go.mod") = true ∨ fs.exists? (Path.join directory ".git") = true

/-- The configuration file of a directory. The name without a dot is preferred. -/
def IsFileOf (fs : FileSystem) (directory path : String) : Prop :=
  fs.isFile path = true ∧ (path = Path.join directory "logmsglint.toml" ∨
    (path = Path.join directory ".logmsglint.toml" ∧
      fs.isFile (Path.join directory "logmsglint.toml") = false))

/-- A directory on the way up holds a configuration file, and no directory strictly below it is the
top of a project. -/
def Offers (fs : FileSystem) (chain : List String) (i : Nat) : Prop :=
  (∃ directory, chain[i]? = some directory ∧ Holds fs directory) ∧
    ∀ j < i, ∀ below, chain[j]? = some below → ¬ Marked fs below

/-- The configuration file of the nearest directory that offers one. -/
def Nearest (fs : FileSystem) (chain : List String) (path : String) : Prop :=
  ∃ i directory, chain[i]? = some directory ∧ Offers fs chain i ∧ (∀ j < i, ¬ Offers fs chain j) ∧
    IsFileOf fs directory path

theorem fileIn?_eq_some_iff : fileIn? fs directory = some path ↔ IsFileOf fs directory path := by
  unfold fileIn? IsFileOf projectNames
  simp only [List.map_cons, List.map_nil]
  by_cases hplain : fs.isFile (Path.join directory "logmsglint.toml") = true
  · rw [List.find?_cons_of_pos hplain, Option.some.injEq]
    constructor
    · rintro rfl
      exact ⟨hplain, .inl rfl⟩
    · rintro ⟨-, rfl | ⟨-, hnot⟩⟩
      · rfl
      · rw [hnot] at hplain
        cases hplain
  · rw [List.find?_cons_of_neg hplain, List.find?_singleton, Option.ite_none_right_eq_some,
      Option.some.injEq]
    constructor
    · rintro ⟨hfile, rfl⟩
      exact ⟨hfile, .inr ⟨rfl, by simpa using hplain⟩⟩
    · rintro ⟨hfile, rfl | ⟨rfl, -⟩⟩
      · exact absurd hfile hplain
      · exact ⟨hfile, rfl⟩

theorem fileIn?_eq_none_iff : fileIn? fs directory = none ↔ ¬ Holds fs directory := by
  simp [fileIn?, projectNames, Holds]

theorem isProjectTop_iff : isProjectTop fs directory = true ↔ Marked fs directory := by
  simp [isProjectTop, projectMarks, Marked]

theorem IsFileOf.holds (h : IsFileOf fs directory path) : Holds fs directory := by
  obtain ⟨hfile, rfl | ⟨rfl, -⟩⟩ := h
  · exact .inl hfile
  · exact .inr hfile

theorem Holds.exists_isFileOf (h : Holds fs directory) : ∃ path, IsFileOf fs directory path := by
  cases hfile : fileIn? fs directory with
  | some path => exact ⟨path, fileIn?_eq_some_iff.1 hfile⟩
  | none => exact absurd h (fileIn?_eq_none_iff.1 hfile)

theorem offers_zero : Offers fs (directory :: chain) 0 ↔ Holds fs directory := by
  simp [Offers]

theorem offers_succ {i : Nat} : Offers fs (directory :: chain) (i + 1) ↔
    ¬ Marked fs directory ∧ Offers fs chain i := by
  unfold Offers
  constructor
  · rintro ⟨hholds, hbelow⟩
    exact ⟨hbelow 0 (by omega) directory rfl, hholds,
      fun j hj below hb => hbelow (j + 1) (by omega) below hb⟩
  · rintro ⟨hmarked, hholds, hbelow⟩
    refine ⟨hholds, fun j hj below hb => ?_⟩
    cases j with
    | zero =>
      obtain rfl : directory = below := Option.some.inj hb
      exact hmarked
    | succ j => exact hbelow j (by omega) below hb

/-- The nearest file is in the first directory, or further up if the first directory neither holds
a file nor is the top of a project. -/
theorem nearest_cons : Nearest fs (directory :: chain) path ↔ IsFileOf fs directory path ∨
    (¬ Holds fs directory ∧ ¬ Marked fs directory ∧ Nearest fs chain path) := by
  constructor
  · rintro ⟨i, d, hd, hoffers, hfirst, hfile⟩
    cases i with
    | zero =>
      obtain rfl : directory = d := Option.some.inj hd
      exact .inl hfile
    | succ i =>
      obtain ⟨hmarked, hoffers⟩ := offers_succ.1 hoffers
      -- otherwise the first directory would offer a file, as none is below it
      have hholds : ¬ Holds fs directory := fun h => hfirst 0 (by omega) (offers_zero.2 h)
      exact .inr ⟨hholds, hmarked, i, d, hd, hoffers,
        fun j hj h => hfirst (j + 1) (by omega) (offers_succ.2 ⟨hmarked, h⟩), hfile⟩
  · rintro (hfile | ⟨hholds, hmarked, i, d, hd, hoffers, hfirst, hfile⟩)
    · exact ⟨0, directory, rfl, offers_zero.2 hfile.holds, by simp, hfile⟩
    · refine ⟨i + 1, d, hd, offers_succ.2 ⟨hmarked, hoffers⟩, fun j hj h => ?_, hfile⟩
      cases j with
      | zero => exact hholds (offers_zero.1 h)
      | succ j => exact hfirst j (by omega) (offers_succ.1 h).2

/-- **A search ends with the nearest file.** -/
theorem search_eq_some_iff : search fs chain = some path ↔ Nearest fs chain path := by
  induction chain with
  | nil => simp [search, Nearest]
  | cons directory chain ih =>
    rw [nearest_cons, ← ih, ← fileIn?_eq_some_iff, ← fileIn?_eq_none_iff, ← isProjectTop_iff, search]
    cases hfile : fileIn? fs directory with
    | some p => simp
    | none =>
      cases htop : isProjectTop fs directory <;> simp

theorem search_eq_none_iff : search fs chain = none ↔ ∀ path, ¬ Nearest fs chain path := by
  simp only [← search_eq_some_iff, Option.eq_none_iff_forall_ne_some, ne_eq]

/-! ## The sources of a configuration -/

/-- The configuration file of a user, if there is one. -/
def IsUserFile (fs : FileSystem) (globalDirectory : Option String) (path : String) : Prop :=
  ∃ directory, globalDirectory = some directory ∧ path = Path.join directory "config.toml" ∧
    fs.isFile path = true

theorem filter_eq_some_iff : (globalDirectory.map (Path.join · globalName)).filter fs.isFile =
    some path ↔ IsUserFile fs globalDirectory path := by
  rw [Option.filter_eq_some_iff, Option.map_eq_some_iff, IsUserFile, globalName]
  constructor
  · rintro ⟨⟨directory, hdirectory, rfl⟩, hfile⟩
    exact ⟨directory, hdirectory, rfl, hfile⟩
  · rintro ⟨directory, hdirectory, rfl, hfile⟩
    exact ⟨⟨directory, hdirectory, rfl⟩, hfile⟩

/-- The directory of a target as its path is written: the target itself, or the directory that the
path of a file tells. -/
def spelled (fs : FileSystem) (target : String) : String :=
  if fs.isFile target then (Path.parent? target).getD target else target

/-- The way up from a target: its directory, without detours if it exists, and all above it. -/
def way (fs : FileSystem) (target : String) : List String :=
  Path.ancestors ((fs.canonical? (spelled fs target)).getD (spelled fs target))

theorem ancestors_start (fs : FileSystem) (target : String) :
    Path.ancestors (start fs target) = way fs target := rfl

/-- What is found if no file is named, by what the search and the user give. -/
theorem find_cases (fs : FileSystem) (target : String) (globalDirectory : Option String) :
    (∀ path, find fs target none globalDirectory ≠ explicit path) ∧
    (∀ path, find fs target none globalDirectory = project path ↔
      search fs (way fs target) = some path) ∧
    (∀ path, find fs target none globalDirectory = global path ↔
      search fs (way fs target) = none ∧
        (globalDirectory.map (Path.join · globalName)).filter fs.isFile = some path) ∧
    (find fs target none globalDirectory = default ↔ search fs (way fs target) = none ∧
      (globalDirectory.map (Path.join · globalName)).filter fs.isFile = none) := by
  rw [← ancestors_start]
  unfold find
  cases search fs (Path.ancestors (start fs target)) with
  | some p => simp
  | none => cases (globalDirectory.map (Path.join · globalName)).filter fs.isFile <;> simp

/-- A project's file is found if it is the nearest one. -/
theorem find_eq_project_iff : find fs target none globalDirectory = project path ↔
    Nearest fs (way fs target) path :=
  ((find_cases fs target globalDirectory).2.1 path).trans search_eq_some_iff

/-- A user's own file is found if no project has one. -/
theorem find_eq_global_iff : find fs target none globalDirectory = global path ↔
    (∀ q, ¬ Nearest fs (way fs target) q) ∧ IsUserFile fs globalDirectory path := by
  rw [← search_eq_none_iff, ← filter_eq_some_iff]
  exact (find_cases fs target globalDirectory).2.2.1 path

/-- No file is found if neither a project nor the user has one. -/
theorem find_eq_default_iff : find fs target none globalDirectory = default ↔
    (∀ q, ¬ Nearest fs (way fs target) q) ∧ ∀ q, ¬ IsUserFile fs globalDirectory q := by
  simp only [← search_eq_none_iff, ← filter_eq_some_iff, ← ne_eq, ← Option.eq_none_iff_forall_ne_some]
  exact (find_cases fs target globalDirectory).2.2.2

/-! ## The way up from a target -/

theorem isFile_iff : fs.isFile path = true ↔
    ∃ p content, fs.resolve? path = some p ∧ fs.entry? p = some (.file content) := by
  unfold FileSystem.isFile FileSystem.find?
  constructor
  · intro h
    split at h
    · rename_i content hfind
      obtain ⟨p, hp, hentry⟩ := Option.bind_eq_some_iff.1 hfind
      exact ⟨p, content, hp, hentry⟩
    · cases h
  · rintro ⟨p, content, hp, hentry⟩
    rw [hp, Option.bind_some, hentry]

/-- The directory of a target stands below directories, if there is one. -/
theorem standing_of_spelled (hcurrent : fs.Standing fs.current)
    (h : fs.resolve? (spelled fs target) = some place) : fs.Standing place := by
  unfold spelled at h
  split at h
  · rename_i hfile
    obtain ⟨p, content, hp, hentry⟩ := isFile_iff.1 hfile
    obtain ⟨front, last, -, -, hfront, ⟨-, directory, hparent, hdirectory⟩ | ⟨-, -, -, hparent⟩⟩ :=
      FileSystem.parent?_of_file hcurrent hp hentry
    · rw [hparent, Option.getD_some, hdirectory] at h
      rwa [← Option.some.inj h]
    · rw [hparent, Option.getD_some] at h
      cases h
  · rename_i hfile
    obtain ⟨hdrop, hsome⟩ := FileSystem.standing_of_resolve? hcurrent h
    refine FileSystem.standing_of_dropLast hdrop (decide_eq_true ?_)
    obtain ⟨entry, hentry⟩ := Option.isSome_iff_exists.1 hsome
    cases entry with
    | directory => exact hentry
    | file content => exact absurd (isFile_iff.2 ⟨place, content, h, hentry⟩) hfile

theorem names_of_standing (hnamed : fs.Named) (h : fs.Standing place) :
    ∀ name ∈ place, Path.IsName name := hnamed place .directory h.entry?

/-- **The way up from a target leads through all directories above its directory.** -/
theorem way_eq (hnamed : fs.Named) (hcurrent : fs.Standing fs.current)
    (h : fs.resolve? (spelled fs target) = some place) :
    way fs target = place.inits.reverse.map Place.path := by
  rw [way, FileSystem.canonical?, h, Option.map_some, Option.getD_some,
    Path.ancestors_path (names_of_standing hnamed (standing_of_spelled hcurrent h))]

/-- **Where a configuration is found, for each target.** A named file is taken as it is. Otherwise it
is the file of the nearest directory on the way up that offers one, then the user's own file, then
none. If the directory of the target exists, the way up consists of the directories above its place,
and in each of them names are looked up.

There are no links, so that the place of a directory is the only way to it. -/
theorem find_exact (fs : FileSystem) (target : String) (explicitPath globalDirectory : Option String) :
    (∀ path, find fs target explicitPath globalDirectory = explicit path ↔
      explicitPath = some path) ∧
    (∀ path, find fs target explicitPath globalDirectory = project path ↔
      explicitPath = none ∧ Nearest fs (way fs target) path) ∧
    (∀ path, find fs target explicitPath globalDirectory = global path ↔
      explicitPath = none ∧ (∀ q, ¬ Nearest fs (way fs target) q) ∧
        IsUserFile fs globalDirectory path) ∧
    (find fs target explicitPath globalDirectory = default ↔
      explicitPath = none ∧ (∀ q, ¬ Nearest fs (way fs target) q) ∧
        ∀ q, ¬ IsUserFile fs globalDirectory q) ∧
    (fs.Named → fs.Standing fs.current → ∀ place, fs.resolve? (spelled fs target) = some place →
      way fs target = place.inits.reverse.map Place.path ∧
        ∀ above, above <+: place → ∀ name, Path.IsName name →
          fs.find? (Path.join (Place.path above) name) = fs.entry? (above ++ [name])) := by
  have hway : fs.Named → fs.Standing fs.current → ∀ place,
      fs.resolve? (spelled fs target) = some place →
      way fs target = place.inits.reverse.map Place.path ∧
        ∀ above, above <+: place → ∀ name, Path.IsName name →
          fs.find? (Path.join (Place.path above) name) = fs.entry? (above ++ [name]) := by
    intro hnamed hcurrent place hplace
    refine ⟨way_eq hnamed hcurrent hplace, fun above habove name hname => ?_⟩
    have hstanding := (standing_of_spelled hcurrent hplace).above habove
    exact FileSystem.find?_join_path (names_of_standing hnamed hstanding) hstanding hname
  cases explicitPath with
  | some named =>
    have hfind : find fs target (some named) globalDirectory = explicit named := rfl
    rw [hfind]
    refine ⟨?_, ?_, ?_, ?_, hway⟩ <;> simp
  | none =>
    refine ⟨fun path => ?_, fun path => ?_, fun path => ?_, ?_, hway⟩
    · simp [(find_cases fs target globalDirectory).1]
    · simp [find_eq_project_iff]
    · simp [find_eq_global_iff]
    · simp [find_eq_default_iff]

/-- Two modules in a directory that has a configuration file, one of them with its own two. -/
def twoModules : FileSystem where
  entries := .ofList [
    (["work"], .directory),
    (["work", "logmsglint.toml"], .file (.text "")),
    (["work", "app"], .directory),
    (["work", "app", "go.mod"], .file (.text "module app\n")),
    (["work", "app", ".logmsglint.toml"], .file (.text "")),
    (["work", "app", "logmsglint.toml"], .file (.text "")),
    (["work", "app", "pkg"], .directory),
    (["work", "app", "pkg", "main.go"], .file (.text "package pkg\n")),
    (["work", "tool"], .directory),
    (["work", "tool", "go.mod"], .file (.text "module tool\n"))]
  current := ["work"]

theorem find_exact_twoModules :
    twoModules.Named ∧ twoModules.Standing twoModules.current ∧
    twoModules.resolve? (spelled twoModules "app/pkg/main.go") = some ["work", "app", "pkg"] ∧
    find twoModules "app/pkg/main.go" none none = project "/work/app/logmsglint.toml" ∧
    way twoModules "app/pkg/main.go" =
      ["/work/app/pkg", "/work/app", "/work", "/"] ∧
    find twoModules "./tool" none none = default := by
  have hnamed : twoModules.Named := FileSystem.named_of_keys (by decide)
  have hcurrent : twoModules.Standing twoModules.current := by decide
  have hplace : twoModules.resolve? (spelled twoModules "app/pkg/main.go") =
      some ["work", "app", "pkg"] := by decide
  obtain ⟨-, hproject, -, -, hway⟩ := find_exact twoModules "app/pkg/main.go" none none
  obtain ⟨-, -, -, hdefault, -⟩ := find_exact twoModules "./tool" none none
  refine ⟨hnamed, hcurrent, hplace, (hproject _).2 ⟨rfl, ?_⟩, ?_, hdefault.2 ⟨rfl, ?_, ?_⟩⟩
  · exact search_eq_some_iff.1 (by decide)
  · rw [(hway hnamed hcurrent _ hplace).1]
    decide
  · exact search_eq_none_iff.1 (by decide)
  · simp [IsUserFile]

/-! ## A file and its directory -/

theorem isFile_of_find? {fs : FileSystem} {p q : String} (h : fs.find? p = fs.find? q) :
    fs.isFile p = fs.isFile q := by
  unfold FileSystem.isFile
  rw [h]

/-- The names that are looked for are names. -/
theorem isName_of_projectNames {name : String} (h : name ∈ projectNames) : Path.IsName name := by
  have hall : ∀ n ∈ projectNames, Path.IsName n := by decide
  exact hall name h

/-- Without any directory, the current one is searched, but none above it. -/
theorem search_empty : search fs (Path.ancestors "") = fileIn? fs "" := by
  have hup : Path.ancestors "" = [""] := by decide
  rw [hup, search]
  cases fileIn? fs "" with
  | some path => rfl
  | none => simp [search]

/-- Relative names and the path of the current directory lead to the same files. -/
theorem holds_current (hnamed : fs.Named) (hcurrent : fs.Standing fs.current) :
    Holds fs "" ↔ Holds fs (Place.path fs.current) := by
  -- both are looked up in the current directory
  have hsame : ∀ name ∈ projectNames,
      fs.isFile (Path.join "" name) = fs.isFile (Path.join (Place.path fs.current) name) := by
    intro name hname
    have hname := isName_of_projectNames hname
    have hbare : Path.join "" name = name := by
      rw [Path.join, hname.not_isAbsolute]
      simp
    apply isFile_of_find?
    rw [hbare, FileSystem.find?_name hcurrent hname,
      FileSystem.find?_join_path (names_of_standing hnamed hcurrent) hcurrent hname]
  rw [Holds, Holds, hsame _ (by decide), hsame _ (by decide)]

theorem IsFileOf.isRelative (h : IsFileOf fs "" path) : Path.isAbsolute path = false := by
  obtain ⟨-, rfl | ⟨rfl, -⟩⟩ := h <;> decide

/-- A file that is found on the way up from a place has an absolute path. -/
theorem isAbsolute_of_nearest {places : List Place} (h : Nearest fs (places.map Place.path) path) :
    Path.isAbsolute path = true := by
  obtain ⟨i, directory, hdirectory, -, -, -, hpath⟩ := h
  rw [List.getElem?_map, Option.map_eq_some_iff] at hdirectory
  obtain ⟨place, -, rfl⟩ := hdirectory
  have hne : Place.path place ≠ "" := by simp [Place.path]
  have habs : ∀ name ∈ projectNames, Path.isAbsolute (Path.join (Place.path place) name) = true := by
    intro name hname
    rw [Path.isAbsolute_join hne (isName_of_projectNames hname), Place.path, Path.isAbsolute_root]
  rcases hpath with rfl | ⟨rfl, -⟩
  · exact habs _ (by decide)
  · exact habs _ (by decide)

/-- The way up decides what is found. -/
theorem find_congr (h : search fs (way fs file) = search fs (way fs directory)) :
    find fs file none globalDirectory = find fs directory none globalDirectory := by
  rw [← ancestors_start, ← ancestors_start] at h
  unfold find
  rw [h]

theorem way_of_directory (hdirectory : fs.resolve? directory = some place)
    (hstanding : fs.Standing place) : way fs directory = Path.ancestors (Place.path place) := by
  have hspelled : spelled fs directory = directory := by
    rw [spelled, if_neg]
    intro h
    obtain ⟨p, content, hp, hcontent⟩ := isFile_iff.1 h
    obtain rfl := Option.some.inj (hdirectory.symm.trans hp)
    rw [hstanding.entry?] at hcontent
    cases hcontent
  rw [way, hspelled, FileSystem.canonical?, hdirectory]
  rfl

/-- A search that starts from the empty path agrees with one from the current directory exactly if
this one finds nothing: what the first one finds has a relative path. -/
theorem find_bare_iff (hnamed : fs.Named) (hcurrent : fs.Standing fs.current)
    (hfile : way fs file = Path.ancestors "")
    (hdirectory : way fs directory = Path.ancestors (Place.path fs.current)) :
    find fs file none globalDirectory = find fs directory none globalDirectory ↔
      ∀ path, ¬ Nearest fs (way fs directory) path := by
  constructor
  · intro heq path hpath
    have hfind : find fs file none globalDirectory = project path := by
      rw [heq, find_eq_project_iff]
      exact hpath
    rw [find_eq_project_iff, hfile, ← search_eq_some_iff, search_empty, fileIn?_eq_some_iff] at hfind
    rw [hdirectory, Path.ancestors_path (names_of_standing hnamed hcurrent)] at hpath
    have habs := isAbsolute_of_nearest hpath
    rw [hfind.isRelative] at habs
    cases habs
  · intro hnone
    have hno : ¬ Holds fs "" := by
      rw [holds_current hnamed hcurrent]
      intro hholds
      obtain ⟨path, hpath⟩ := hholds.exists_isFileOf
      -- the current directory is the first one on the way up from itself
      obtain ⟨rest, hrest⟩ : ∃ rest, Path.ancestors (Place.path fs.current) =
        Place.path fs.current :: rest := ⟨_, rfl⟩
      apply hnone path
      rw [hdirectory, hrest]
      exact nearest_cons.2 (.inl hpath)
    apply find_congr
    rw [hfile, search_empty, fileIn?_eq_none_iff.2 hno, search_eq_none_iff.2 hnone]

/-- **A file is checked with the configuration of its directory, however both are spelled, unless it
is named without any directory and its project has a configuration.** -/
theorem find_file_iff (hnamed : fs.Named) (hcurrent : fs.Standing fs.current)
    (hfile : fs.resolve? file = some (place ++ [name]))
    (hcontent : fs.entry? (place ++ [name]) = some (.file content))
    (hdirectory : fs.resolve? directory = some place) (globalDirectory : Option String) :
    find fs file none globalDirectory = find fs directory none globalDirectory ↔
      '/' ∈ file.toList ∨ ∀ path, find fs directory none globalDirectory ≠ project path := by
  have hspelled : spelled fs file = (Path.parent? file).getD file := by
    rw [spelled, if_pos (isFile_iff.2 ⟨_, content, hfile, hcontent⟩)]
  obtain ⟨front, last, hsplit, hlast, hstanding, hcases⟩ :=
    FileSystem.parent?_of_file hcurrent hfile hcontent
  obtain ⟨rfl, -⟩ := List.append_inj' hsplit rfl
  have hup := way_of_directory hdirectory hstanding
  rcases hcases with ⟨hslash, parent, hparent, hresolve⟩ | ⟨hslash, -, rfl, hparent⟩
  · have hsame : way fs file = way fs directory := by
      rw [hup, way, hspelled, hparent, Option.getD_some, FileSystem.canonical?, hresolve]
      rfl
    simp only [hslash, true_or, iff_true]
    exact find_congr (by rw [hsame])
  · have hbare : way fs file = Path.ancestors "" := by
      rw [way, hspelled, hparent]
      rfl
    simp only [hslash, false_or, ne_eq, find_eq_project_iff]
    exact find_bare_iff hnamed hcurrent hbare hup

/-- A file in a directory of a project, which has its configuration further up. -/
def insideProject : FileSystem where
  entries := .ofList [
    (["work"], .directory),
    (["work", "go.mod"], .file (.text "module work\n")),
    (["work", "logmsglint.toml"], .file (.text "")),
    (["work", "app"], .directory),
    (["work", "app", "main.go"], .file (.text "package main\n"))]
  current := ["work", "app"]

/-- The bare name of a file is not enough to find the configuration of its project. -/
theorem find_file_insideProject :
    insideProject.Named ∧ insideProject.Standing insideProject.current ∧
    insideProject.resolve? "main.go" = some (["work", "app"] ++ ["main.go"]) ∧
    insideProject.entry? (["work", "app"] ++ ["main.go"]) = some (.file (.text "package main\n")) ∧
    insideProject.resolve? "." = some ["work", "app"] ∧
    find insideProject "." none none = project "/work/logmsglint.toml" ∧
    find insideProject "main.go" none none ≠ find insideProject "." none none ∧
    find insideProject "../app/main.go" none none = find insideProject "." none none := by
  have hnamed : insideProject.Named := FileSystem.named_of_keys (by decide)
  have hcurrent : insideProject.Standing insideProject.current := by decide
  have hbare : insideProject.resolve? "main.go" = some (["work", "app"] ++ ["main.go"]) := by decide
  have hlong : insideProject.resolve? "../app/main.go" = some (["work", "app"] ++ ["main.go"]) := by
    decide
  have hcontent : insideProject.entry? (["work", "app"] ++ ["main.go"]) =
      some (.file (.text "package main\n")) := by decide
  have hdirectory : insideProject.resolve? "." = some ["work", "app"] := by decide
  have hproject : find insideProject "." none none = project "/work/logmsglint.toml" :=
    find_eq_project_iff.2 (search_eq_some_iff.1 (by decide))
  refine ⟨hnamed, hcurrent, hbare, hcontent, hdirectory, hproject, ?_, ?_⟩
  · rw [Ne, find_file_iff hnamed hcurrent hbare hcontent hdirectory none]
    rintro (hslash | hno)
    · exact absurd hslash (by decide)
    · exact hno _ hproject
  · rw [find_file_iff hnamed hcurrent hlong hcontent hdirectory none]
    exact .inl (by decide)

/-- A project with a file and its configuration in the current directory. -/
def currentProject : FileSystem where
  entries := .ofList [
    (["work"], .directory),
    (["work", "logmsglint.toml"], .file (.text "fail_on = \"error\"\n")),
    (["work", "main.go"], .file (.text "package main\n"))]
  current := ["work"]

/-- The same configuration is found under another path if a file is given by its bare name. -/
theorem find_bare_name :
    currentProject.resolve? "main.go" = some ["work", "main.go"] ∧
    currentProject.isFile "main.go" = true ∧ currentProject.resolve? "." = some ["work"] ∧
    find currentProject "main.go" none none = project "logmsglint.toml" ∧
    find currentProject "." none none = project "/work/logmsglint.toml" := by
  refine ⟨by decide, by decide, by decide, ?_, ?_⟩
  · exact find_eq_project_iff.2 (search_eq_some_iff.1 (by decide))
  · exact find_eq_project_iff.2 (search_eq_some_iff.1 (by decide))

end ConfigSource

end LogStyle
