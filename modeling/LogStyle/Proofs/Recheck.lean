import LogStyle.Command.Check
import LogStyle.Proofs.Reparsing
import LogStyle.Proofs.Walks

/-!
# Checking again after a fix

A check that fixes gives its verdict from what it found before. Another check reads the files again:
it finds the same files under the same configuration, with the replacements made. The two verdicts
differ where a message was exposed.

* `Logged.Gives`: work that says something on the way gives a value.
* `Analysis.Finds.again`: **another analysis finds the same files, with the replacements made.**
* `Check.exists_looksAt`: a check that gives a verdict has looked at some files.
* `Check.run_fixed`: **if a check that fixes does not fail, another check fails exactly if a message
  was exposed.**
* `Check.bundledFiles`: what the bundled tools find and read without a configuration.
-/

namespace LogStyle

namespace Logged

variable {α β : Type} {log : List LogLine} {a : α} {b : β}

/-- Work gives a value when some lines have been said. -/
def Gives (work : Logged α) (log : List LogLine) (a : α) : Prop := (work.run.run log).1 = .ok a

/-- Work after work: a failure ends it. -/
theorem run_bind (work : Logged α) (next : α → Logged β) (log : List LogLine) :
    (work >>= next).run.run log = match work.run.run log with
      | (.ok a, log) => (next a).run.run log
      | (.error e, log) => (.error e, log) := by
  change (ExceptT.run work >>= ExceptT.bindCont next).run log = _
  rw [StateT.run_bind]
  rcases work.run.run log with ⟨_ | _, log'⟩ <;> rfl

theorem gives_bind {work : Logged α} {next : α → Logged β} : (work >>= next).Gives log b ↔
    ∃ a, work.Gives log a ∧ (next a).Gives (work.run.run log).2 b := by
  unfold Gives
  rw [run_bind]
  rcases work.run.run log with ⟨e | a, log'⟩ <;> simp

@[simp] theorem gives_pure {a' : α} : (pure a : Logged α).Gives log a' ↔ a = a' := by
  change Except.ok a = Except.ok a' ↔ _
  simp

@[simp] theorem gives_liftM {work : Except CommandError α} :
    (liftM work : Logged α).Gives log a ↔ work = .ok a := Iff.rfl

@[simp] theorem gives_say {level : LogLevel} {text : String} {u : Unit} :
    (say level text).Gives log u := rfl

@[simp] theorem gives_forM_say {texts : List String} {level : LogLevel} {text : String → String}
    {u : PUnit} : (texts.forM fun t => say level (text t)).Gives log u := by
  induction texts generalizing log with
  | nil => exact gives_pure.2 rfl
  | cons t texts ih => exact gives_bind.2 ⟨(), gives_say, ih⟩

end Logged

namespace Engine

theorem ofConfig_eq (regex? : String → Option Pattern.Regex) (config : Config) :
    ofConfig regex? config =
      (Sensitive.compileWithBuiltins regex? config.sensitivePatterns).map fun patterns =>
        ofRules config (Rule.all patterns) := by
  unfold ofConfig
  cases Sensitive.compileWithBuiltins regex? config.sensitivePatterns <;> rfl

theorem ofConfig_of_compile {regex? : String → Option Pattern.Regex} {config : Config}
    {patterns : List Sensitive.Pattern}
    (h : Sensitive.compileWithBuiltins regex? config.sensitivePatterns = .ok patterns) :
    ofConfig regex? config = .ok (ofRules config (Rule.all patterns)) := by
  rw [ofConfig_eq, h]
  rfl

end Engine

/-- The steps of an analysis that finds something: there is an engine, the globs are globs, and the
files that are found are read. -/
structure Analysis.Finds (tools : Tools) (fs : FileSystem) (target : String) (config : Config)
    (extra : List String) (engine : Engine Rule) (files : List ParsedFile) : Prop where
  engine : Engine.ofConfig tools.regex? config = .ok engine
  found : ∃ excludes found,
    Analysis.excludes tools.glob? (config.analyzer.exclude ++ extra) = .ok excludes ∧
    Discovery.files fs (root fs target config) tools.walk excludes config.analyzer.respectGitignore =
      .ok found ∧
    readAll tools.reader fs found = .ok files

theorem Analysis.run_gives {tools : Tools} {fs : FileSystem} {target : String} {config : Config}
    {extra : List String} {log : List LogLine} {analysis : Analysis} :
    (Analysis.run tools fs target config extra).Gives log analysis ↔
      ∃ engine files, Finds tools fs target config extra engine files ∧
        ofFiles engine files = analysis := by
  unfold Analysis.run
  simp only [Logged.gives_bind, Logged.gives_forM_say, Logged.gives_say, Logged.gives_liftM,
    Logged.gives_pure, Except.mapError_eq_ok, true_and, exists_const]
  constructor
  · rintro ⟨engine, hengine, excludes, hexcludes, found, hfound, files, hfiles, rfl⟩
    exact ⟨engine, files, ⟨hengine, excludes, found, hexcludes, hfound, hfiles⟩, rfl⟩
  · rintro ⟨engine, files, ⟨hengine, excludes, found, hexcludes, hfound, hfiles⟩, rfl⟩
    exact ⟨engine, hengine, excludes, hexcludes, found, hfound, files, hfiles, rfl⟩

/-! ## What is found in files that are written -/

section

variable {fs fs' : FileSystem} {file : SourceFile} {fix : FileFix} {analysis : Analysis}
  {violations : List Violation}

theorem FileSystem.exists_of_readText? {path text : String} (h : fs.readText? path = some text) :
    ∃ place, fs.resolve? path = some place ∧ fs.entry? place = some (.file (.text text)) := by
  unfold readText? read? find? at h
  cases hplace : fs.resolve? path with
  | none => simp [hplace] at h
  | some place =>
    refine ⟨place, rfl, ?_⟩
    cases hentry : fs.entry? place with
    | none => simp [hplace, hentry] at h
    | some entry =>
      rcases entry with _ | (text' | bytes)
      · simp [hplace, hentry] at h
      · simpa [hplace, hentry, Content.text?] using h
      · simp [hplace, hentry, Content.text?] at h

theorem FileSystem.readText?_eq {path text : String} {place : Place}
    (hplace : fs.resolve? path = some place) (h : fs.entry? place = some (.file (.text text))) :
    fs.readText? path = some text := by
  simp [readText?, read?, find?, hplace, h, Content.text?]

theorem FileFix.file_of? {violations : List Violation} {fix : FileFix}
    (h : of? violations file = some fix) :
    fix.file = file ∧ fix.outcome.text = (Fixes.corrected violations file).text := by
  simp only [of?, Option.ite_none_left_eq_some, Option.some.injEq] at h
  obtain ⟨-, rfl⟩ := h
  exact ⟨rfl, rfl⟩

/-- A file in which nothing is done keeps its text. -/
theorem Fixes.corrected_of_none {violations : List Violation}
    (h : FileFix.of? violations file = none) : (corrected violations file).text = file.text := by
  have hnone : Edit.accept file.text.toList 0
      (Edit.inOrder ((FileFix.replacements violations file.display).map (·.1))) = [] := by
    simp only [FileFix.of?, Edit.apply, ite_eq_left_iff, reduceCtorEq, imp_false, not_not,
      List.isEmpty_iff] at h
    simpa using congrArg List.length h
  simp [corrected, Edit.apply, hnone]

theorem Fixes.of?_of_mem_plan (h : fix ∈ plan analysis) : fix.file ∈ analysis.files ∧
    FileFix.of? analysis.result.violations fix.file = some fix := by
  obtain ⟨file, hfile, hof⟩ := List.mem_filterMap.1 h
  obtain ⟨rfl, -⟩ := FileFix.file_of? hof
  exact ⟨hfile, hof⟩

/-- A file with the replacements made, as it is read again. -/
structure ParsedFile.IsFixed (fixed : ParsedFile) (reader : Go.Reader)
    (violations : List Violation) (file : ParsedFile) : Prop where
  corrected : fixed.toSourceFile = Fixes.corrected violations file.toSourceFile
  tree : reader.tree? fixed.text = some fixed.tree

end

namespace Analysis.Finds

variable {tools : Tools} {fs fs' : FileSystem} {target : String} {config : Config}
  {extra : List String} {engine : Engine Rule} {files : List ParsedFile} {file f g : ParsedFile}
  {place : Place}

theorem isRead (h : Finds tools fs target config extra engine files) (hfile : file ∈ files) :
    file.IsRead tools.reader fs := by
  obtain ⟨excludes, found, -, -, hfiles⟩ := h.found
  exact ((mem_readAll hfiles).1 hfile).2

theorem nodup_display (hwalk : tools.walk.Exact fs)
    (h : Finds tools fs target config extra engine files) :
    (files.map fun f => Path.components f.display).Nodup := by
  obtain ⟨excludes, found, -, hfound, hfiles⟩ := h.found
  have hdisplay := Discovery.nodup_display hwalk hfound
  rw [← map_readAll hfiles, List.map_map] at hdisplay
  exact hdisplay

theorem apart (hwalk : tools.walk.Exact fs)
    (h : Finds tools fs target config extra engine files) : Apart files :=
  fun _ hf _ hg hsame =>
    List.inj_on_of_nodup_map (h.nodup_display hwalk) hf hg (of_decide_eq_true hsame)

theorem eq_of_same_place (hwalk : tools.walk.Exact fs)
    (h : Finds tools fs target config extra engine files) (hf : f ∈ files) (hg : g ∈ files)
    (hfp : fs.resolve? f.path = some place) (hgp : fs.resolve? g.path = some place) : f = g := by
  obtain ⟨excludes, found, -, hfound, hfiles⟩ := h.found
  obtain ⟨hf, hfread⟩ := (mem_readAll hfiles).1 hf
  obtain ⟨hg, hgread⟩ := (mem_readAll hfiles).1 hg
  exact eq_of_isRead (Discovery.eq_of_same_place hwalk hfound hf hg hfp hgp) hfread hgread

/-- What is to be fixed is there. -/
theorem present (h : Finds tools fs target config extra engine files) :
    Fixes.Present (Fixes.plan (ofFiles engine files)) fs := by
  intro fix hfix
  obtain ⟨hfile, -⟩ := Fixes.of?_of_mem_plan hfix
  obtain ⟨file, hfile, heq⟩ := List.mem_map.1 hfile
  obtain ⟨place, hplace, hentry⟩ := FileSystem.exists_of_readText? (h.isRead hfile).text
  exact ⟨place, _, heq ▸ hplace, hentry⟩

/-- The fixes of an analysis are written as they are planned. -/
theorem written (hwalk : tools.walk.Exact fs)
    (h : Finds tools fs target config extra engine files)
    (hok : (Fixes.write fs (Fixes.plan (ofFiles engine files))).2.2 = .ok ()) :
    Fixes.Written (Fixes.plan (ofFiles engine files)) fs
      (Fixes.write fs (Fixes.plan (ofFiles engine files))).1 := by
  refine Fixes.write_written h.present (fun a ha b hb place hplace hplace' => ?_) hok
  obtain ⟨hfile, hof⟩ := Fixes.of?_of_mem_plan ha
  obtain ⟨hfile', hof'⟩ := Fixes.of?_of_mem_plan hb
  obtain ⟨f, hf, heq⟩ := List.mem_map.1 hfile
  obtain ⟨g, hg, heq'⟩ := List.mem_map.1 hfile'
  rw [← heq] at hof hplace
  rw [← heq'] at hof' hplace'
  obtain rfl := h.eq_of_same_place hwalk hf hg hplace hplace'
  exact Option.some.inj (hof.symm.trans hof')

/-- **Fixed files are read back with the replacements made.** -/
theorem readText?_written (hwalk : tools.walk.Exact fs)
    (h : Finds tools fs target config extra engine files)
    (hwritten : Fixes.Written (Fixes.plan (ofFiles engine files)) fs fs') (hfile : file ∈ files) :
    fs'.readText? file.path =
      some (Fixes.corrected (ofFiles engine files).result.violations file.toSourceFile).text := by
  obtain ⟨place, hplace, hentry⟩ := FileSystem.exists_of_readText? (h.isRead hfile).text
  apply FileSystem.readText?_eq ((hwritten.alike.resolve? file.path).trans hplace)
  cases hfix : FileFix.of? (ofFiles engine files).result.violations file.toSourceFile with
  | some fix =>
    obtain ⟨heq, htext⟩ := FileFix.file_of? hfix
    rw [← htext]
    refine hwritten.new fix ?_ place (heq ▸ hplace)
    exact List.mem_filterMap.2 ⟨_, List.mem_map_of_mem hfile, hfix⟩
  | none =>
    rw [Fixes.corrected_of_none hfix, hwritten.kept, hentry]
    intro other hother hplace'
    obtain ⟨hmem, hof⟩ := Fixes.of?_of_mem_plan hother
    obtain ⟨g, hg, heq⟩ := List.mem_map.1 hmem
    rw [← heq] at hof hplace'
    rw [h.eq_of_same_place hwalk hfile hg hplace hplace', hof] at hfix
    cases hfix

/-- **Another analysis looks at the same files, with the replacements made.** -/
theorem again (hwalk : tools.walk.Exact fs) (hsteady : tools.walk.Steady fs)
    (h : Finds tools fs target config extra engine files)
    (hwritten : Fixes.Written (Fixes.plan (ofFiles engine files)) fs fs')
    (htrees : ∀ file ∈ files, ∃ tree, tools.reader.tree?
      (Fixes.corrected (ofFiles engine files).result.violations file.toSourceFile).text = some tree) :
    ∃ files', Finds tools fs' target config extra engine files' ∧
      (∀ file ∈ files, ∃ fixed ∈ files', fixed.IsFixed tools.reader
        (ofFiles engine files).result.violations file) ∧
      ∀ fixed ∈ files', ∃ file ∈ files, fixed.IsFixed tools.reader
        (ofFiles engine files).result.violations file := by
  have htext : ∀ file ∈ files, fs'.readText? file.path = _ :=
    fun file hfile => h.readText?_written hwalk hwritten hfile
  have hread := fun file (hfile : file ∈ files) => Go.Reader.read_eq_ok.1 (h.isRead hfile).tree
  obtain ⟨excludes, found, hexcludes, hfound, hfiles⟩ := h.found
  have hfixes : ∀ fix ∈ Fixes.plan (ofFiles engine files), fix.file.toFoundFile ∈ found := by
    intro fix hfix
    obtain ⟨hmem, -⟩ := Fixes.of?_of_mem_plan hfix
    obtain ⟨file, hfile, heq⟩ := List.mem_map.1 hmem
    exact heq ▸ ((mem_readAll hfiles).1 hfile).1
  obtain ⟨found', hfound', hsame⟩ :=
    Discovery.files_written hwalk hsteady hfound hwritten.toTouched hfixes
  -- every file that is found has been read before
  have hbefore : ∀ f ∈ found', ∃ file ∈ files, file.toFoundFile = f := by
    intro f hf
    rw [hsame, ← map_readAll hfiles] at hf
    exact List.mem_map.1 hf
  obtain ⟨files', hfiles'⟩ : ∃ files', readAll tools.reader fs' found' = .ok files' := by
    refine exists_readAll.2 fun f hf => ?_
    obtain ⟨file, hfile, rfl⟩ := hbefore f hf
    obtain ⟨tree, htree⟩ := htrees file hfile
    exact ⟨_, tree, htext file hfile, Go.Reader.read_eq_ok.2 ⟨(hread file hfile).1, htree⟩⟩
  have hroot : root fs' target config = root fs target config := by
    unfold root
    rw [hwritten.alike.isFile]
  refine ⟨files', ⟨h.engine, excludes, found', hexcludes, hroot ▸ hfound', hfiles'⟩, ?_, ?_⟩
  · intro file hfile
    obtain ⟨tree, htree⟩ := htrees file hfile
    refine ⟨⟨Fixes.corrected _ file.toSourceFile, tree⟩, ?_, ⟨rfl, htree⟩⟩
    refine (mem_readAll hfiles').2 ⟨(hsame _).2 ((mem_readAll hfiles).1 hfile).1, htext file hfile, ?_⟩
    exact Go.Reader.read_eq_ok.2 ⟨(hread file hfile).1, htree⟩
  · intro fixed hfixed
    obtain ⟨hmem, hfixedRead⟩ := (mem_readAll hfiles').1 hfixed
    obtain ⟨file, hfile, heq⟩ := hbefore _ hmem
    refine ⟨file, hfile, ?_, (Go.Reader.read_eq_ok.1 hfixedRead.tree).2⟩
    have hnew := hfixedRead.text
    rw [show fixed.path = file.path from congrArg FoundFile.path heq.symm, htext file hfile] at hnew
    obtain ⟨⟨found, text⟩, tree⟩ := fixed
    obtain rfl : file.toFoundFile = found := heq
    obtain rfl := Option.some.inj hnew
    rfl

end Analysis.Finds

namespace Check

variable {tools : Tools} {fs : FileSystem} {target : String} {options : CheckOptions}
  {source : ConfigSource} {log : List LogLine} {config loaded : Config} {analysis : Analysis}
  {engine : Engine Rule} {files : List ParsedFile}

/-- The configuration with the rules that were asked for on. -/
def selected (config : Config) : Option String → Except CommandError Config
  | none => .ok config
  | some filter => config.select filter

theorem restrict_gives {filter : Option String} :
    (restrict loaded filter).Gives log config ↔ selected loaded filter = .ok config := by
  cases filter with
  | none =>
    rw [restrict, Logged.gives_pure, selected, Except.ok.injEq]
  | some filter =>
    simp only [restrict, selected, Logged.gives_bind, Logged.gives_forM_say, Logged.gives_liftM,
      true_and, exists_const]

theorem prepare_gives : (prepare fs source options).Gives log config ↔
    ∃ loaded, source.load fs = .ok loaded ∧
      selected (loaded.addPatterns options.sensitivePatterns) options.rules = .ok config := by
  unfold prepare
  split <;> simp only [Logged.gives_bind, Logged.gives_say, Logged.gives_liftM,
    Except.mapError_eq_ok, restrict_gives, true_and, exists_const]

/-- The configuration of a check is loaded and restricted to the rules that were asked for. -/
def Configured (fs : FileSystem) (options : CheckOptions) (source : ConfigSource)
    (config : Config) : Prop :=
  ∃ loaded, source.load fs = .ok loaded ∧
    selected (loaded.addPatterns options.sensitivePatterns) options.rules = .ok config

/-- What a check looks at: it has a configuration and an engine, and the files are found and read. -/
structure LooksAt (tools : Tools) (fs : FileSystem) (target : String) (options : CheckOptions)
    (source : ConfigSource) (config : Config) (engine : Engine Rule) (files : List ParsedFile) :
    Prop where
  configured : Configured fs options source config
  finds : Analysis.Finds tools fs target config options.exclude engine files

theorem inspect_gives : (inspect tools fs target options source).Gives log (config, analysis) ↔
    ∃ engine files, LooksAt tools fs target options source config engine files ∧
      Analysis.ofFiles engine files = analysis := by
  unfold inspect
  simp only [Logged.gives_bind, prepare_gives, Analysis.run_gives, Logged.gives_pure, Prod.mk.injEq]
  constructor
  · rintro ⟨_, hconfig, _, ⟨engine, files, hfinds, hanalysis⟩, rfl, rfl⟩
    exact ⟨engine, files, ⟨hconfig, hfinds⟩, hanalysis⟩
  · rintro ⟨engine, files, ⟨hconfig, hfinds⟩, rfl⟩
    exact ⟨_, hconfig, _, ⟨engine, files, hfinds, rfl⟩, rfl, rfl⟩

namespace LooksAt

theorem result_inspect (h : LooksAt tools fs target options source config engine files) :
    (inspect tools fs target options source).result.1 =
      .ok (config, Analysis.ofFiles engine files) :=
  inspect_gives.2 ⟨engine, files, h, rfl⟩

theorem result_run (h : LooksAt tools fs target options source config engine files)
    (hfix : options.fix = false) : (run tools fs target options source).result =
      .ok ((Analysis.ofFiles engine files).result.reaches config.failThreshold) := by
  have hresult := h.result_inspect
  unfold run
  rcases hrun : (inspect tools fs target options source).result with ⟨value, log⟩
  rw [hrun] at hresult
  obtain rfl : value = .ok (config, Analysis.ofFiles engine files) := hresult
  simp [hfix]

/-- With fixes the outcome is that of writing. -/
theorem run_fix (h : LooksAt tools fs target options source config engine files)
    (hfix : options.fix = true) :
    let analysis := Analysis.ofFiles engine files
    let written := Fixes.write fs (Fixes.plan analysis)
    (run tools fs target options source).files = written.1 ∧
      (run tools fs target options source).result = written.2.2.map fun _ =>
        decide (0 < Fixes.left analysis (Fixes.plan analysis) config.failThreshold) := by
  have hresult := h.result_inspect
  unfold run fix
  rcases hrun : (inspect tools fs target options source).result with ⟨value, log⟩
  rw [hrun] at hresult
  obtain rfl : value = .ok (config, Analysis.ofFiles engine files) := hresult
  rcases hwritten : Fixes.write fs (Fixes.plan (Analysis.ofFiles engine files)) with
    ⟨files, lines, _ | _⟩ <;> simp [hfix, hwritten, Except.map]

theorem run_fix_eq_false (h : LooksAt tools fs target options source config engine files)
    (hfix : options.fix = true)
    (hwrite : (Fixes.write fs (Fixes.plan (.ofFiles engine files))).2.2 = .ok ())
    (hleft : Fixes.left (.ofFiles engine files) (Fixes.plan (.ofFiles engine files))
      config.failThreshold = 0) :
    (run tools fs target options source).result = .ok false := by
  rw [(h.run_fix hfix).2, hwrite, hleft]
  rfl

end LooksAt

/-- A check that gives a verdict has looked at some files. -/
theorem exists_looksAt {failed : Bool}
    (h : (run tools fs target options source).result = .ok failed) :
    ∃ config engine files, LooksAt tools fs target options source config engine files := by
  unfold run at h
  rcases hrun : (inspect tools fs target options source).result with ⟨_ | ⟨config, analysis⟩, log⟩
  · rw [hrun] at h
    cases h
  · have hgives : (inspect tools fs target options source).Gives [] (config, analysis) :=
      congrArg Prod.fst hrun
    obtain ⟨engine, files, hlooks, -⟩ := inspect_gives.1 hgives
    exact ⟨config, engine, files, hlooks⟩

/-- A configuration that is none of the fixed files is loaded as before. -/
theorem load_written {fs' : FileSystem} {fixes : List FileFix} (htouched : Fixes.Touched fixes fs fs')
    (h : ∀ path ∈ source.path?, ∀ fix ∈ fixes, fs.resolve? fix.file.path ≠ fs.resolve? path) :
    source.load fs' = source.load fs := by
  unfold ConfigSource.load
  cases hpath : source.path? with
  | none => rfl
  | some path =>
    have hread : fs'.readText? path = fs.readText? path := by
      unfold FileSystem.readText? FileSystem.read? FileSystem.find?
      rw [htouched.alike.resolve?]
      cases hplace : fs.resolve? path with
      | none => rfl
      | some place =>
        have hkept := htouched.kept fun fix hfix => hplace ▸ h path hpath fix hfix
        rw [Option.bind_some, Option.bind_some, hkept]
    simp only [hread]

/-- **The verdict of a check that fixes.** Without patterns of one's own, and with a configuration
that is none of the checked files: if a check that fixes does not fail, another check of the fixed
files gives a verdict as well, and it fails exactly if a message was exposed. This holds with any
tools, if the built-in patterns mean what they say, the entries of directories are found by their
names whatever Go files hold, and fixed files are parsed as they were, up to the replaced literals. -/
theorem run_fixed (hwalk : tools.walk.Exact fs) (hsteady : tools.walk.Steady fs)
    (hbuiltins : Sensitive.compileWithBuiltins tools.regex? [] = .ok Sensitive.builtinPatterns)
    (hlooks : LooksAt tools fs target options source config engine files)
    (hpatterns : config.sensitivePatterns = [])
    (hconfig : ∀ path ∈ source.path?, ∀ file ∈ files, fs.resolve? file.path ≠ fs.resolve? path)
    (hparse : ∀ file ∈ files,
      Reparses tools.reader (Analysis.ofFiles engine files).result.violations file)
    (hfix : options.fix = true) (hrun : (run tools fs target options source).result = .ok false) :
    ∃ failed, (run tools (run tools fs target options source).files target
        { options with fix := false } source).result = .ok failed ∧
      (failed = true ↔ ∃ file ∈ files, ∃ m ∈ file.messages, ∃ text,
        Exposed engine config.failThreshold (Analysis.ofFiles engine files).result.violations
          file.toSourceFile m text) := by
  obtain ⟨hfiles, hresult⟩ := hlooks.run_fix hfix
  rw [hrun] at hresult
  -- the check has written all of its fixes, and nothing is left
  obtain ⟨hwrite, hleft⟩ : (Fixes.write fs (Fixes.plan (Analysis.ofFiles engine files))).2.2 =
      .ok () ∧ Fixes.left (Analysis.ofFiles engine files)
        (Fixes.plan (Analysis.ofFiles engine files)) config.failThreshold = 0 := by
    rcases hwritten : (Fixes.write fs (Fixes.plan (Analysis.ofFiles engine files))).2.2 with _ | _
    · simp [hwritten, Except.map] at hresult
    · simpa [hwritten, Except.map] using hresult
  have hwritten := hlooks.finds.written hwalk hwrite
  have hapart := hlooks.finds.apart hwalk
  obtain ⟨files', hfinds', hforth, hback⟩ := hlooks.finds.again hwalk hsteady hwritten fun file hfile =>
    let ⟨tree, htree, _⟩ := (hparse file hfile).again
    ⟨tree, htree⟩
  -- without patterns of one's own the rules are the built-in ones
  have hrules : (engine.rules.map (·.rule)).Sublist (Rule.all Sensitive.builtinPatterns) := by
    have hengine := Engine.ofConfig_of_compile (hpatterns.symm ▸ hbuiltins)
    obtain rfl := Except.ok.inj (hengine.symm.trans hlooks.finds.engine)
    rw [Engine.ofRules, List.map_map]
    exact (List.map_id'' (fun _ => rfl) _).symm ▸ List.filter_sublist
  obtain ⟨loaded, hloaded, hselected⟩ := hlooks.configured
  have hload : source.load (Fixes.write fs (Fixes.plan (Analysis.ofFiles engine files))).1 =
      source.load fs := by
    refine load_written hwritten.toTouched fun path hpath fix hmem => ?_
    obtain ⟨hmem, -⟩ := Fixes.of?_of_mem_plan hmem
    obtain ⟨file, hfile, heq⟩ := List.mem_map.1 hmem
    exact heq ▸ hconfig path hpath file hfile
  have hlooks' : LooksAt tools (Fixes.write fs (Fixes.plan (Analysis.ofFiles engine files))).1 target
      { options with fix := false } source config engine files' :=
    ⟨⟨loaded, hload.trans hloaded, hselected⟩, hfinds'⟩
  rw [hfiles]
  refine ⟨_, hlooks'.result_run rfl, reaches_corrected hrules hapart ?_ ?_ hleft⟩
  · intro file hfile
    obtain ⟨fixed, hfixed, h⟩ := hforth file hfile
    exact ⟨fixed, hfixed,
      (hparse file hfile).readsBack (congrArg SourceFile.text h.corrected) h.tree⟩
  · intro fixed hfixed
    obtain ⟨file, hfile, h⟩ := hback fixed hfixed
    exact ⟨file, hfile,
      (hparse file hfile).readsBack (congrArg SourceFile.text h.corrected) h.tree⟩

/-! ## Without a configuration -/

/-- The engine of a project without a configuration. -/
def bundledEngine : Engine Rule := .ofRules {} (Rule.all Sensitive.builtinPatterns)

/-- The files that the bundled tools find and read below a target if there is no configuration. -/
def bundledFiles (fs : FileSystem) (target : String) (extra : List String) :
    Except CommandError (List ParsedFile) := do
  let config : Config := {}
  let excludes ← Analysis.excludes Tools.bundled.glob? (config.analyzer.exclude ++ extra)
  let found ← Discovery.files fs (Analysis.root fs target config) Ignore.walk excludes
    config.analyzer.respectGitignore
  Analysis.readAll .strict fs found

theorem looksAt_bundled {extra : List String} (h : bundledFiles fs target extra = .ok files)
    (fix : Bool) :
    LooksAt .bundled fs target { exclude := extra, fix := fix } .default {} bundledEngine files := by
  obtain ⟨excludes, hexcludes, h⟩ := Except.bind_eq_ok.1 h
  obtain ⟨found, hfound, hfiles⟩ := Except.bind_eq_ok.1 h
  exact ⟨⟨{}, rfl, rfl⟩, Engine.ofConfig_of_compile Sensitive.compile_builtins, excludes, found,
    hexcludes, hfound, hfiles⟩

/-- A project with one message, in which an exclamation mark hides a capital letter. -/
def hiddenCapital : FileSystem where
  entries := .ofList [(["main.go"], .file (.text
    "package main\n\nimport \"log/slog\"\n\nfunc main() \x7b\n\tslog.Info(\"!Hello\")\n\x7d\n"))]

set_option maxRecDepth 20000 in
theorem run_fixed_hiddenCapital : ∃ config engine files failed,
    LooksAt .bundled hiddenCapital "." { fix := true } .default config engine files ∧
    (run .bundled (run .bundled hiddenCapital "." { fix := true } .default).files "." {}
      .default).result = .ok failed ∧
    (failed = true ↔ ∃ file ∈ files, ∃ m ∈ file.messages, ∃ text,
      Exposed engine config.failThreshold (Analysis.ofFiles engine files).result.violations
        file.toSourceFile m text) := by
  have hnamed : hiddenCapital.Named := FileSystem.named_of_keys (by decide)
  have hinput : ∃ files ∈ (bundledFiles hiddenCapital "." []).toOption,
      let analysis := Analysis.ofFiles bundledEngine files
      (∀ file ∈ files, Reparses .strict analysis.result.violations file) ∧
      (Fixes.write hiddenCapital (Fixes.plan analysis)).2.2.toOption = some () ∧
      Fixes.left analysis (Fixes.plan analysis) .warning = 0 := by
    decide +kernel
  obtain ⟨files, hfiles, hparse, hwrite, hleft⟩ := hinput
  have hlooks := looksAt_bundled (Except.toOption_eq_some.1 hfiles) true
  have hrun := hlooks.run_fix_eq_false rfl (Except.toOption_eq_some.1 hwrite) hleft
  have hwalk : Tools.bundled.walk.Exact hiddenCapital := Ignore.walk_exact hnamed
  obtain ⟨failed, hfailed⟩ := run_fixed hwalk (Ignore.walk_steady _) Sensitive.compile_builtins hlooks
    rfl nofun hparse rfl hrun
  exact ⟨_, _, files, failed, hlooks, hfailed⟩

set_option maxRecDepth 20000 in
/-- The verdict of a check that fixes is not that of another check. -/
theorem run_hiddenCapital :
    (run .bundled hiddenCapital "." { fix := true } .default).result = .ok false ∧
      (run .bundled (run .bundled hiddenCapital "." { fix := true } .default).files "." {}
        .default).result = .ok true := by
  have hinput : ∃ files ∈ (bundledFiles hiddenCapital "." []).toOption,
      let analysis := Analysis.ofFiles bundledEngine files
      let written := Fixes.write hiddenCapital (Fixes.plan analysis)
      written.2.2.toOption = some () ∧ Fixes.left analysis (Fixes.plan analysis) .warning = 0 ∧
      ∃ files' ∈ (bundledFiles written.1 "." []).toOption,
        (Analysis.ofFiles bundledEngine files').result.reaches .warning = true := by
    decide +kernel
  obtain ⟨files, hfiles, hwrite, hleft, files', hfiles', hreaches⟩ := hinput
  have hlooks := looksAt_bundled (Except.toOption_eq_some.1 hfiles) true
  have hlooks' := looksAt_bundled (Except.toOption_eq_some.1 hfiles') false
  refine ⟨hlooks.run_fix_eq_false rfl (Except.toOption_eq_some.1 hwrite) hleft, ?_⟩
  rw [(hlooks.run_fix rfl).1, hlooks'.result_run rfl]
  exact congrArg Except.ok hreaches

end Check

end LogStyle
