import LogStyle.Command.Analysis
import LogStyle.Proofs.Writing
import Mathlib.Data.List.Forall2
import Mathlib.Data.List.Nodup

/-!
# The files that are found and read

Below a directory another library goes through the entries. All that is relied on is that it gives
names and none of them twice, and that it does not look into Go files.

* `Walker.Exact`, `Walker.Steady`: what is relied on.
* `Discovery.files_cases`, `Discovery.mem_filesBelow`: the files that are found.
* `Discovery.nodup_display`: **no two files that are found have one path in the report.**
* `Discovery.eq_of_same_place`: **no two of them lead to one place.**
* `Discovery.files_written`: **the same files are found when some of them have been written.**
* `Analysis.mem_readAll`: files are read with their texts and their trees.
-/

namespace LogStyle

/-! ## Work on a list -/

section

variable {α β : Type} {R : α → β → Prop} {as : List α} {bs : List β}

theorem exists_right_of_forall₂ (h : List.Forall₂ R as bs) {a : α} (ha : a ∈ as) :
    ∃ b ∈ bs, R a b := by
  induction h with
  | nil => cases ha
  | cons hab _ ih =>
    rcases List.mem_cons.1 ha with rfl | ha
    · exact ⟨_, List.mem_cons_self, hab⟩
    · obtain ⟨b, hb, h⟩ := ih ha
      exact ⟨b, List.mem_cons_of_mem _ hb, h⟩

theorem exists_left_of_forall₂ (h : List.Forall₂ R as bs) {b : β} (hb : b ∈ bs) :
    ∃ a ∈ as, R a b :=
  exists_right_of_forall₂ h.flip hb

end

namespace Except

variable {ε ε' α β : Type} {f : α → Except ε β}

theorem bind_eq_ok {e : Except ε α} {b : β} : e >>= f = .ok b ↔ ∃ a, e = .ok a ∧ f a = .ok b := by
  cases e <;> simp [bind, Except.bind]

theorem toOption_eq_some {e : Except ε α} {a : α} : e.toOption = some a ↔ e = .ok a := by
  cases e <;> simp [Except.toOption]

/-- Work on a list gives a result if it does on each element. -/
theorem mapM_eq_ok {l : List α} {l' : List β} :
    l.mapM f = .ok l' ↔ List.Forall₂ (fun a b => f a = .ok b) l l' := by
  induction l generalizing l' with
  | nil => cases l' <;> simp [pure, Except.pure]
  | cons a l ih =>
    simp only [List.mapM_cons, bind_eq_ok, ih, List.forall₂_cons_left_iff, pure, Except.pure,
      Except.ok.injEq, eq_comm (b := l'), exists_and_left]

theorem exists_mapM {l : List α} : (∃ l', l.mapM f = .ok l') ↔ ∀ a ∈ l, ∃ b, f a = .ok b := by
  simp only [mapM_eq_ok]
  induction l with
  | nil => exact ⟨by simp, fun _ => ⟨[], .nil⟩⟩
  | cons a l ih =>
    rw [List.forall_mem_cons, ← ih]
    constructor
    · rintro ⟨_, hall⟩
      cases hall with
      | cons hb hrest => exact ⟨⟨_, hb⟩, _, hrest⟩
    · rintro ⟨⟨b, hb⟩, l', hrest⟩
      exact ⟨b :: l', .cons hb hrest⟩

theorem mapError_eq_ok {f : ε → ε'} {e : Except ε α} {a : α} :
    e.mapError f = .ok a ↔ e = .ok a := by
  cases e <;> simp [Except.mapError]

/-- Results that are there already, one by one. -/
theorem mapM_mapError_eq_ok {g : ε → ε'} {l : List (Except ε α)} {l' : List α} :
    l.mapM (·.mapError g) = .ok l' ↔ l = l'.map .ok := by
  simp only [mapM_eq_ok, mapError_eq_ok]
  rw [← List.forall₂_eq_eq_eq, List.forall₂_map_right_iff]

end Except

/-! ## What is relied on -/

/-- A walk gives entries by names that files can have, and none of them twice. -/
structure Walker.Exact (walk : Walker) (fs : FileSystem) : Prop where
  named : ∀ root respectGitignore names, .ok names ∈ walk fs root respectGitignore →
    ∀ name ∈ names, Path.IsName name
  nodup : ∀ root respectGitignore,
    ((walk fs root respectGitignore).filterMap Except.toOption).Nodup

/-- File systems that differ at most in what their Go files hold. -/
structure FileSystem.AlikeButGo (fs fs' : FileSystem) : Prop where
  alike : fs.Alike fs'
  kept : ∀ place, place.getLast?.any Go.handles = false → fs'.entry? place = fs.entry? place

/-- A walk gives the same entries whatever the Go files hold. -/
def Walker.Steady (walk : Walker) (fs : FileSystem) : Prop :=
  ∀ fs', fs.AlikeButGo fs' → ∀ root respectGitignore entry,
    entry ∈ walk fs' root respectGitignore ↔ entry ∈ walk fs root respectGitignore

/-! ## Finding files -/

theorem Path.fileName?_of_isName {name : String} (h : IsName name) : fileName? name = some name := by
  have hcomponents : components name = [.name name] := by
    have hnames : ∀ n ∈ [name], IsName n := by simpa using h
    simpa [Text.joinStrings, Text.join] using components_joinStrings hnames
  rw [fileName?, hcomponents]
  rfl

namespace Discovery

variable {fs fs' : FileSystem} {root : String} {place : Place} {walk : Walker}
  {excludes : List (String → Bool)} {respectGitignore : Bool} {names : List String}
  {f g : FoundFile} {found : List FoundFile}

/-- The files of a target are the target itself, or are found below it. -/
theorem files_cases (h : files fs root walk excludes respectGitignore = .ok found) :
    (fs.isFile root = true ∧ found = [⟨root, root⟩]) ∨
      (fs.isFile root = false ∧ fs.isDirectory root = true ∧
        filesBelow fs root walk excludes respectGitignore = .ok found) := by
  unfold files at h
  split at h
  · exact .inl ⟨‹_›, (Except.ok.inj h).symm⟩
  · rename_i hfile
    split at h
    · exact .inr ⟨by simpa using hfile, ‹_›, h⟩
    · cases h

theorem filesBelow_eq_ok : filesBelow fs root walk excludes respectGitignore = .ok found ↔
    ∃ entries : List (List String), walk fs root respectGitignore = entries.map .ok ∧
      ((entries.filter (takes fs root excludes)).map (fileBelow root)).mergeSort
        (fun f g => (Path.compare f.display g.display).isLE) = found := by
  unfold filesBelow
  simp only [bind, Except.bind]
  split
  · rename_i e herror
    simp only [reduceCtorEq, false_iff]
    rintro ⟨entries, hentries, -⟩
    rw [Except.mapM_mapError_eq_ok.2 hentries] at herror
    cases herror
  · rename_i entries hentries
    rw [Except.mapM_mapError_eq_ok] at hentries
    simp only [pure, Except.pure, Except.ok.injEq]
    constructor
    · rintro rfl
      exact ⟨entries, hentries, rfl⟩
    · rintro ⟨entries', hentries', rfl⟩
      have hinj : Function.Injective (@Except.ok String (List String)) :=
        fun a b h => Except.ok.inj h
      rw [List.map_injective_iff.2 hinj (hentries.symm.trans hentries')]

theorem mem_filesBelow (h : filesBelow fs root walk excludes respectGitignore = .ok found) :
    f ∈ found ↔ ∃ names, .ok names ∈ walk fs root respectGitignore ∧
      takes fs root excludes names = true ∧ fileBelow root names = f := by
  obtain ⟨entries, hentries, rfl⟩ := filesBelow_eq_ok.1 h
  rw [hentries]
  simp [and_assoc]

/-- **No two files that are found have one path in the report.** -/
theorem nodup_display (hwalk : walk.Exact fs)
    (h : files fs root walk excludes respectGitignore = .ok found) :
    (found.map fun f => Path.components f.display).Nodup := by
  obtain ⟨-, rfl⟩ | ⟨-, -, hbelow⟩ := files_cases h
  · exact List.nodup_singleton _
  · obtain ⟨entries, hentries, rfl⟩ := filesBelow_eq_ok.1 hbelow
    have hnodup := hwalk.nodup root respectGitignore
    have hnames := hwalk.named root respectGitignore
    simp only [hentries, List.filterMap_map, Function.comp_def, Except.toOption,
      List.filterMap_some] at hnodup
    rw [hentries] at hnames
    rw [((List.mergeSort_perm _ _).map _).nodup_iff, List.map_map]
    refine List.Nodup.map_on ?_ (hnodup.filter _)
    intro names hmem names' hmem' heq
    have hisName : ∀ {names}, names ∈ entries.filter (takes fs root excludes) →
        ∀ name ∈ names, Path.IsName name :=
      fun hmem => hnames _ (List.mem_map_of_mem (List.mem_of_mem_filter hmem))
    simp only [Function.comp_apply, fileBelow] at heq
    rw [Path.components_joinStrings (hisName hmem), Path.components_joinStrings (hisName hmem')] at heq
    exact List.map_injective_iff.2 (fun a b hab => Path.Component.name.inj hab) heq

/-- A file below a directory with the place that its path leads to. -/
theorem place_of_takes (hnames : ∀ name ∈ names, Path.IsName name) (hroot : root ≠ "")
    (hplace : fs.resolve? (pathBelow root names) = some place) :
    ∃ p, fs.resolve? root = some p ∧ place = p ++ names := by
  rw [FileSystem.resolve?_pathBelow hroot hnames, Option.bind_eq_some_iff] at hplace
  obtain ⟨p, hp, hwalk⟩ := hplace
  exact ⟨p, hp, FileSystem.eq_of_walk_names hnames hwalk⟩

theorem ne_empty_of_isDirectory (h : fs.isDirectory root = true) : root ≠ "" := by
  rintro rfl
  cases h

/-- **No two files that are found lead to one place.** -/
theorem eq_of_same_place (hwalk : walk.Exact fs)
    (h : files fs root walk excludes respectGitignore = .ok found) (hf : f ∈ found) (hg : g ∈ found)
    (hfp : fs.resolve? f.path = some place) (hgp : fs.resolve? g.path = some place) : f = g := by
  obtain ⟨-, rfl⟩ | ⟨-, hdirectory, hbelow⟩ := files_cases h
  · rw [List.mem_singleton.1 hf, List.mem_singleton.1 hg]
  · have hroot := ne_empty_of_isDirectory hdirectory
    obtain ⟨names, hnames, -, rfl⟩ := (mem_filesBelow hbelow).1 hf
    obtain ⟨names', hnames', -, rfl⟩ := (mem_filesBelow hbelow).1 hg
    obtain ⟨p, hp, heq⟩ := place_of_takes (hwalk.named _ _ _ hnames) hroot hfp
    obtain ⟨p', hp', heq'⟩ := place_of_takes (hwalk.named _ _ _ hnames') hroot hgp
    obtain rfl := Option.some.inj (hp.symm.trans hp')
    rw [List.append_cancel_left (heq.symm.trans heq')]

/-- The last name tells whether the path of an entry is that of a Go file. -/
theorem handles_pathBelow {name : String} (hroot : root ≠ "")
    (hnames : ∀ name ∈ names, Path.IsName name) (hlast : names.getLast? = some name) :
    Go.handles (pathBelow root names) = Go.handles name := by
  have hname := hnames name (List.mem_of_getLast? hlast)
  rw [Go.handles, Go.handles, Path.extension?, Path.extension?,
    FileSystem.fileName?_pathBelow hroot hnames hlast, Path.fileName?_of_isName hname]

/-- What is found below a directory are Go files, by the last names of their places too. -/
theorem handles_of_mem_filesBelow (hwalk : walk.Exact fs) (hfile : fs.isFile root = false)
    (hdirectory : fs.isDirectory root = true)
    (h : filesBelow fs root walk excludes respectGitignore = .ok found) (hf : f ∈ found)
    (hplace : fs.resolve? f.path = some place) : place.getLast?.any Go.handles = true := by
  have hroot := ne_empty_of_isDirectory hdirectory
  obtain ⟨names, hmem, htakes, rfl⟩ := (mem_filesBelow h).1 hf
  have hnames := hwalk.named _ _ _ hmem
  simp only [takes, Bool.and_eq_true] at htakes
  obtain ⟨⟨hisFile, hgo⟩, -⟩ := htakes
  cases hlast : names.getLast? with
  | none =>
    -- the root itself is a directory
    obtain rfl := List.getLast?_eq_none_iff.1 hlast
    exact absurd (hfile.symm.trans hisFile) (by simp)
  | some name =>
    obtain ⟨p, -, rfl⟩ := place_of_takes hnames hroot hplace
    rw [List.getLast?_append, hlast]
    exact (handles_pathBelow hroot hnames hlast).symm.trans hgo

theorem isDirectory_of_alike (h : fs.Alike fs') : fs'.isDirectory root = fs.isDirectory root := by
  have hdirectory : ∀ fs : FileSystem, fs.isDirectory root =
      decide (((fs.resolve? root).bind fs.entry?).map Entry.isDirectory = some true) := by
    intro fs
    rw [FileSystem.isDirectory, FileSystem.find?]
    rcases (fs.resolve? root).bind fs.entry? with _ | _ | _ <;> simp [Entry.isDirectory]
  rw [hdirectory, hdirectory, h.resolve?, Option.map_bind, Option.map_bind]
  simp only [Function.comp_def, h.entry]

/-- Entries that can all be looked at are those of another walk in some order. -/
theorem exists_entries {entries : List (List String)} {others : List (Except String (List String))}
    (h : ∀ entry, entry ∈ others ↔ entry ∈ entries.map Except.ok) :
    ∃ entries' : List (List String), others = entries'.map .ok := by
  have hok : ∀ entry ∈ others, ∃ names : List String, entry = .ok names := by
    intro entry hentry
    obtain ⟨names, -, rfl⟩ := List.mem_map.1 ((h entry).1 hentry)
    exact ⟨names, rfl⟩
  obtain ⟨entries', hentries'⟩ := Except.exists_mapM.2 hok
  refine ⟨entries', ?_⟩
  rw [← List.forall₂_eq_eq_eq, List.forall₂_map_right_iff]
  exact Except.mapM_eq_ok.1 hentries'

/-- **The same files are found again when some of them have been written.** -/
theorem files_written {fixes : List FileFix} (hwalk : walk.Exact fs) (hsteady : walk.Steady fs)
    (h : files fs root walk excludes respectGitignore = .ok found)
    (htouched : Fixes.Touched fixes fs fs') (hfixes : ∀ fix ∈ fixes, fix.file.toFoundFile ∈ found) :
    ∃ found', files fs' root walk excludes respectGitignore = .ok found' ∧
      ∀ f, f ∈ found' ↔ f ∈ found := by
  obtain ⟨hfile, rfl⟩ | ⟨hfile, hdirectory, hbelow⟩ := files_cases h
  · refine ⟨[⟨root, root⟩], ?_, fun f => Iff.rfl⟩
    rw [files, htouched.alike.isFile, if_pos hfile]
  · have hbut : fs.AlikeButGo fs' := by
      refine ⟨htouched.alike, fun place hplace => htouched.kept fun fix hfix hresolve => ?_⟩
      have hgo := handles_of_mem_filesBelow hwalk hfile hdirectory hbelow (hfixes fix hfix) hresolve
      exact absurd (hplace.symm.trans hgo) (by simp)
    have htakes : takes fs' root excludes = takes fs root excludes := by
      funext names
      simp only [takes, htouched.alike.isFile]
    obtain ⟨entries, hentries, -⟩ := filesBelow_eq_ok.1 hbelow
    obtain ⟨entries', hentries'⟩ := exists_entries fun entry =>
      hentries ▸ hsteady fs' hbut root respectGitignore entry
    obtain ⟨found', hbelow'⟩ :
        ∃ found', filesBelow fs' root walk excludes respectGitignore = .ok found' :=
      ⟨_, filesBelow_eq_ok.2 ⟨entries', hentries', rfl⟩⟩
    refine ⟨found', ?_, fun f => ?_⟩
    · rw [files, htouched.alike.isFile, hfile, if_neg Bool.false_ne_true,
        isDirectory_of_alike htouched.alike, if_pos hdirectory]
      exact hbelow'
    · simp only [mem_filesBelow hbelow', mem_filesBelow hbelow, htakes,
        hsteady fs' hbut root respectGitignore]

end Discovery

/-! ## Reading files -/

theorem Go.Reader.read_eq_ok {reader : Go.Reader} {path source : String} {tree : Go.Tree} :
    reader.read path source = .ok tree ↔
      reader.refusal? = none ∧ reader.tree? source = some tree := by
  unfold read
  cases reader.refusal? with
  | some cause => simp
  | none => cases reader.tree? source <;> simp

/-- A file holds its text, and its tree is read from it. -/
structure ParsedFile.IsRead (reader : Go.Reader) (fs : FileSystem) (file : ParsedFile) : Prop where
  text : fs.readText? file.path = some file.text
  tree : reader.read file.display file.text = .ok file.tree

namespace Analysis

variable {reader : Go.Reader} {fs : FileSystem} {f : FoundFile} {found : List FoundFile}
  {file : ParsedFile} {files : List ParsedFile}

theorem readFile_eq_ok : readFile reader fs f = .ok file ↔
    file.toFoundFile = f ∧ file.IsRead reader fs := by
  obtain ⟨⟨⟨path, display⟩, text⟩, tree⟩ := file
  unfold readFile
  cases hread : fs.readText? f.path with
  | none =>
    refine ⟨nofun, ?_⟩
    rintro ⟨rfl, htext, -⟩
    exact absurd (hread.symm.trans htext) (by simp)
  | some text' =>
    cases hparse : reader.read f.display text' with
    | error e =>
      simp only [hparse, Except.mapError, bind, Except.bind, reduceCtorEq, false_iff]
      rintro ⟨rfl, htext, htree⟩
      obtain rfl := Option.some.inj (hread.symm.trans htext)
      exact absurd (hparse.symm.trans htree) (by simp)
    | ok tree' =>
      simp only [hparse, Except.mapError, bind, Except.bind, pure, Except.pure, Except.ok.injEq]
      constructor
      · intro heq
        cases heq
        exact ⟨rfl, hread, hparse⟩
      · rintro ⟨rfl, htext, htree⟩
        obtain rfl := Option.some.inj (hread.symm.trans htext)
        obtain rfl := Except.ok.inj (hparse.symm.trans htree)
        rfl

theorem forall₂_readAll : readAll reader fs found = .ok files ↔
    List.Forall₂ (fun f file => file.toFoundFile = f ∧ file.IsRead reader fs) found files := by
  simp only [readAll, Except.mapM_eq_ok, readFile_eq_ok]

theorem map_readAll (h : readAll reader fs found = .ok files) :
    files.map (·.toFoundFile) = found := by
  rw [← List.forall₂_eq_eq_eq, List.forall₂_map_left_iff]
  exact (forall₂_readAll.1 h).flip.imp fun _ _ h => h.1

/-- A file that is read again from the same place is the same. -/
theorem eq_of_isRead {g : ParsedFile} (hsame : file.toFoundFile = g.toFoundFile)
    (hfile : file.IsRead reader fs) (hg : g.IsRead reader fs) : file = g :=
  Except.ok.inj ((readFile_eq_ok.2 ⟨hsame, hfile⟩).symm.trans (readFile_eq_ok.2 ⟨rfl, hg⟩))

/-- Files are read with their texts and their trees. -/
theorem mem_readAll (h : readAll reader fs found = .ok files) :
    file ∈ files ↔ file.toFoundFile ∈ found ∧ file.IsRead reader fs := by
  have hall := forall₂_readAll.1 h
  constructor
  · intro hfile
    obtain ⟨f, hf, rfl, hread⟩ := exists_left_of_forall₂ hall hfile
    exact ⟨hf, hread⟩
  · rintro ⟨hfound, hread⟩
    obtain ⟨g, hg, hsame, hread'⟩ := exists_right_of_forall₂ hall hfound
    exact eq_of_isRead hsame hread' hread ▸ hg

/-- Files can be read together if each of them is a text that has a tree. -/
theorem exists_readAll : (∃ files, readAll reader fs found = .ok files) ↔
    ∀ f ∈ found, ∃ text tree, fs.readText? f.path = some text ∧
      reader.read f.display text = .ok tree := by
  rw [readAll, Except.exists_mapM]
  refine forall₂_congr fun f _ => ?_
  simp only [readFile_eq_ok]
  constructor
  · rintro ⟨file, rfl, hread⟩
    exact ⟨_, _, hread.text, hread.tree⟩
  · rintro ⟨text, tree, htext, htree⟩
    exact ⟨⟨⟨f, text⟩, tree⟩, rfl, htext, htree⟩

end Analysis

end LogStyle
