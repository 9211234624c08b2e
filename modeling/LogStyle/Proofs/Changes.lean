import LogStyle.Proofs.Recheck
import LogStyle.Proofs.ReportOrder

/-!
# What a check changes

A check reads, reports and only then writes. Violations are joined with files by their paths in the
report, so that the fixes of a file are those of its own violations.

* `Sorting.filter_mergeSort_comm`: a stable sort may be restricted before or after it is made.
* `Analysis.violations_of_file`: what a report says of a file is what is found in the file alone.
* `ParsedFile.ownFix`: the replacements of a file's own violations, made in its text.
* `Check.Fails`: some step fails before anything is written.
* `Check.Touched`, `Check.Rewritten`: what is changed are files that were found and are fixed.
* `Check.run_touches`: **a check without fixes changes nothing, nor does one that fails before it
  writes. One that fixes changes files that it has found, and each as its own violations ask.**
-/

namespace LogStyle

/-! ## Own violations -/

/-- A stable sort may be restricted before or after it is made. -/
theorem Sorting.filter_mergeSort_comm {α : Type} {le : α → α → Bool}
    (htrans : ∀ a b c, le a b = true → le b c = true → le a c = true)
    (htotal : ∀ a b, (le a b || le b a) = true) (p : α → Bool) (l : List α) :
    (l.mergeSort le).filter p = (l.filter p).mergeSort le := by
  have hrefl : ∀ a, le a a = true := fun a => by simpa using htotal a a
  have hclass : ∀ a b c, tied le a b = true → tied le a c = true → le b c = true := by
    intro a b c hb hc
    simp only [tied, Bool.and_eq_true] at hb hc
    exact htrans b a c hb.2 hc.1
  refine eq_of_filter_tied hrefl ((List.pairwise_mergeSort htrans htotal l).filter p)
    (List.pairwise_mergeSort htrans htotal _) fun a => ?_
  rw [List.filter_comm, Edit.filter_mergeSort htrans htotal (hclass a),
    Edit.filter_mergeSort htrans htotal (hclass a), List.filter_comm]

namespace Analysis

variable {engine : Engine Rule} {files : List ParsedFile} {file : ParsedFile}

/-- The violations of a file as they are found. -/
def found (engine : Engine Rule) (file : ParsedFile) : List Violation :=
  engine.check file.checked.unit file.checked.types.resolver

theorem violations_ofFiles (engine : Engine Rule) (files : List ParsedFile) :
    (ofFiles engine files).result.violations =
      (files.flatMap (found engine)).mergeSort Violation.atOrBefore := by
  simp only [ofFiles, Engine.checkAll, LintResult.sort, List.flatMap_map]
  rfl

theorem file_of_mem_found {v : Violation} (h : v ∈ found engine file) :
    v.location.file = file.display := by
  rw [Engine.file_of_mem_check h, ParsedFile.path_checked]

/-- **What a report says of a file is what is found in the file alone.** -/
theorem violations_of_file (hnodup : (files.map fun f => Path.components f.display).Nodup)
    (hfile : file ∈ files) :
    (ofFiles engine files).result.violations.filter (Path.same ·.location.file file.display) =
      (ofFiles engine [file]).result.violations := by
  obtain ⟨front, back, rfl⟩ := List.append_of_mem hfile
  rw [List.map_append, List.map_cons, List.nodup_append, List.nodup_cons] at hnodup
  obtain ⟨-, ⟨hback, -⟩, hfront⟩ := hnodup
  -- files with other paths have no violations here
  have hother : ∀ other : ParsedFile,
      Path.components other.display ≠ Path.components file.display →
      (found engine other).filter (Path.same ·.location.file file.display) = [] := by
    intro other hne
    refine List.filter_eq_nil_iff.2 fun v hv hsame => hne ?_
    rw [← file_of_mem_found hv]
    exact of_decide_eq_true hsame
  have hfront : front.flatMap (fun f => (found engine f).filter
      (Path.same ·.location.file file.display)) = [] := by
    refine List.flatMap_eq_nil_iff.2 fun other hmem => hother other ?_
    exact hfront _ (List.mem_map_of_mem hmem) _ List.mem_cons_self
  have hback : back.flatMap (fun f => (found engine f).filter
      (Path.same ·.location.file file.display)) = [] := by
    refine List.flatMap_eq_nil_iff.2 fun other hmem => hother other fun heq => hback ?_
    exact heq ▸ List.mem_map_of_mem hmem
  have hown : (found engine file).filter (Path.same ·.location.file file.display) =
      found engine file := by
    refine List.filter_eq_self.2 fun v hv => ?_
    rw [file_of_mem_found hv]
    exact decide_eq_true rfl
  rw [violations_ofFiles, violations_ofFiles,
    Sorting.filter_mergeSort_comm Violation.atOrBefore_trans Violation.atOrBefore_total,
    List.filter_flatMap, List.flatMap_append, List.flatMap_cons, hfront, hback, hown]
  simp

end Analysis

/-! ## Own fixes -/

/-- The replacements of a file's own violations, made in its text. -/
def ParsedFile.ownFix (engine : Engine Rule) (file : ParsedFile) : Edit.Outcome :=
  Edit.apply file.text
    ((Analysis.ofFiles engine [file]).result.violations.filterMap Violation.replacement?)

theorem FileFix.map_replacements (violations : List Violation) (display : String) :
    (replacements violations display).map (·.1) =
      (violations.filter (Path.same ·.location.file display)).filterMap Violation.replacement? := by
  -- numbered violations on both sides, so that they are compared one by one
  have hfst : violations = violations.zipIdx.map Prod.fst := by simp
  conv_rhs => rw [hfst]
  rw [replacements, List.map_filterMap, List.filterMap_filter, List.filterMap_map]
  refine List.filterMap_congr fun x _ => ?_
  obtain ⟨v, index⟩ := x
  simp only [Function.comp_apply]
  split
  · rw [Option.map_map]
    exact congrFun Option.map_id _
  · rfl

section

variable {engine : Engine Rule} {files : List ParsedFile} {file : ParsedFile} {fix : FileFix}

theorem Edit.apply_replacements (hnodup : (files.map fun f => Path.components f.display).Nodup)
    (hfile : file ∈ files) :
    Edit.apply file.text ((FileFix.replacements (Analysis.ofFiles engine files).result.violations
      file.display).map (·.1)) = file.ownFix engine := by
  rw [FileFix.map_replacements, Analysis.violations_of_file hnodup hfile, ParsedFile.ownFix]

/-- **Files are fixed for their own violations only.** -/
theorem Fixes.text_corrected (hnodup : (files.map fun f => Path.components f.display).Nodup)
    (hfile : file ∈ files) :
    (corrected (Analysis.ofFiles engine files).result.violations file.toSourceFile).text =
      (file.ownFix engine).text :=
  congrArg Edit.Outcome.text (Edit.apply_replacements hnodup hfile)

/-- Something is done to a file if it is found and some replacement is made in it. -/
theorem Fixes.mem_plan_iff (hnodup : (files.map fun f => Path.components f.display).Nodup) :
    fix ∈ plan (Analysis.ofFiles engine files) ↔
      ∃ file ∈ files, (file.ownFix engine).applied ≠ [] ∧
        ⟨file.toSourceFile, file.ownFix engine, (FileFix.replacements
          (Analysis.ofFiles engine files).result.violations file.display).map (·.2)⟩ = fix := by
  have hfiles : (Analysis.ofFiles engine files).files = files.map (·.toSourceFile) := rfl
  rw [plan, hfiles, List.filterMap_map, List.mem_filterMap]
  refine exists_congr fun file => and_congr_right fun hfile => ?_
  rw [Function.comp_apply, FileFix.of?, Edit.apply_replacements hnodup hfile]
  simp [Option.ite_none_left_eq_some, List.isEmpty_iff]

end

/-! ## Failing before anything is written -/

theorem Analysis.exists_excludes {glob? : String → Option (String → Bool)} {texts : List String} :
    (∃ excludes, Analysis.excludes glob? texts = .ok excludes) ↔
      ∀ text ∈ texts, ∃ covers, glob? text = some covers := by
  rw [excludes, Except.exists_mapM]
  refine forall₂_congr fun text _ => ?_
  cases glob? text <;> simp

namespace Check

variable {tools : Tools} {fs fs' : FileSystem} {target : String} {options : CheckOptions}
  {source : ConfigSource} {config : Config} {engine : Engine Rule} {files : List ParsedFile}

/-- The files that a check finds. -/
def Discovers (tools : Tools) (fs : FileSystem) (target : String) (options : CheckOptions)
    (source : ConfigSource) (found : List FoundFile) : Prop :=
  ∃ config excludes, Configured fs options source config ∧
    Analysis.excludes tools.glob? (config.analyzer.exclude ++ options.exclude) = .ok excludes ∧
    Discovery.files fs (Analysis.root fs target config) tools.walk excludes
      config.analyzer.respectGitignore = .ok found

/-- Some step of a check fails before anything is written. -/
inductive Fails (tools : Tools) (fs : FileSystem) (target : String) (options : CheckOptions)
    (source : ConfigSource) : Prop where
  | load {e} : source.load fs = .error e → Fails tools fs target options source
  | rules {filter} : options.rules = some filter → Selection.kinds filter = [] →
      Fails tools fs target options source
  | engine {config e} : Configured fs options source config →
      Engine.ofConfig tools.regex? config = .error e → Fails tools fs target options source
  | exclude {config text} : Configured fs options source config →
      text ∈ config.analyzer.exclude ++ options.exclude → tools.glob? text = none →
      Fails tools fs target options source
  | discovery {config excludes e} : Configured fs options source config →
      Analysis.excludes tools.glob? (config.analyzer.exclude ++ options.exclude) = .ok excludes →
      Discovery.files fs (Analysis.root fs target config) tools.walk excludes
        config.analyzer.respectGitignore = .error e → Fails tools fs target options source
  | read {found file} : Discovers tools fs target options source found → file ∈ found →
      fs.readText? file.path = none → Fails tools fs target options source
  | parse {found file text e} : Discovers tools fs target options source found → file ∈ found →
      fs.readText? file.path = some text → tools.reader.read file.display text = .error e →
      Fails tools fs target options source

theorem selected_eq_error {filter : Option String} : (∃ e, selected config filter = .error e) ↔
    ∃ text, filter = some text ∧ Selection.kinds text = [] := by
  cases filter with
  | none => simp [selected]
  | some text =>
    rw [selected, Config.select]
    cases h : Selection.kinds text <;> simp [h]

theorem Configured.unique {config' : Config} (h : Configured fs options source config)
    (h' : Configured fs options source config') : config = config' := by
  obtain ⟨loaded, hload, hselected⟩ := h
  obtain ⟨loaded', hload', hselected'⟩ := h'
  obtain rfl := Except.ok.inj (hload.symm.trans hload')
  exact Except.ok.inj (hselected.symm.trans hselected')

/-- **A check looks at some files unless a step fails.** -/
theorem fails_or_looksAt (tools : Tools) (fs : FileSystem) (target : String)
    (options : CheckOptions) (source : ConfigSource) : Fails tools fs target options source ∨
      ∃ config engine files, LooksAt tools fs target options source config engine files := by
  rcases hload : source.load fs with e | loaded
  · exact .inl (.load hload)
  rcases hselected : selected (loaded.addPatterns options.sensitivePatterns) options.rules with
    e | config
  · obtain ⟨filter, hfilter, hkinds⟩ := selected_eq_error.1 ⟨e, hselected⟩
    exact .inl (.rules hfilter hkinds)
  have hconfig : Configured fs options source config := ⟨loaded, hload, hselected⟩
  rcases hengine : Engine.ofConfig tools.regex? config with e | engine
  · exact .inl (.engine hconfig hengine)
  rcases hexcludes : Analysis.excludes tools.glob? (config.analyzer.exclude ++ options.exclude) with
    e | excludes
  · by_contra hnone
    obtain ⟨excludes, hok⟩ := Analysis.exists_excludes.2 fun text hmem =>
      Option.ne_none_iff_exists'.1 fun hglob => hnone (.inl (.exclude hconfig hmem hglob))
    rw [hok] at hexcludes
    cases hexcludes
  rcases hfound : Discovery.files fs (Analysis.root fs target config) tools.walk excludes
      config.analyzer.respectGitignore with e | found
  · exact .inl (.discovery hconfig hexcludes hfound)
  have hdiscovers : Discovers tools fs target options source found :=
    ⟨config, excludes, hconfig, hexcludes, hfound⟩
  by_cases hfiles : ∃ files, Analysis.readAll tools.reader fs found = .ok files
  · obtain ⟨files, hfiles⟩ := hfiles
    exact .inr ⟨config, engine, files, hconfig, hengine, excludes, found, hexcludes, hfound, hfiles⟩
  -- some file is no text, or has no tree
  rw [Analysis.exists_readAll] at hfiles
  push Not at hfiles
  obtain ⟨file, hmem, hfile⟩ := hfiles
  rcases htext : fs.readText? file.path with _ | text
  · exact .inl (.read hdiscovers hmem htext)
  rcases htree : tools.reader.read file.display text with e | tree
  · exact .inl (.parse hdiscovers hmem htext htree)
  · exact absurd htree (hfile text tree htext)

theorem LooksAt.not_fails (h : LooksAt tools fs target options source config engine files) :
    ¬ Fails tools fs target options source := by
  obtain ⟨hconfig, hengine, excludes, found, hexcludes, hfound, hfiles⟩ := h
  -- each step has one outcome, so that none that has succeeded can fail
  have hunique : ∀ config', Configured fs options source config' → config' = config :=
    fun config' h => h.unique hconfig
  have hdiscovered : ∀ found', Discovers tools fs target options source found' → found' = found := by
    rintro found' ⟨config', excludes', hconfig', hexcludes', hfound'⟩
    obtain rfl := hunique _ hconfig'
    obtain rfl := Except.ok.inj (hexcludes.symm.trans hexcludes')
    exact Except.ok.inj (hfound'.symm.trans hfound)
  have hread := Analysis.exists_readAll.1 ⟨files, hfiles⟩
  intro hfails
  cases hfails with
  | load hload =>
    obtain ⟨loaded, hloaded, -⟩ := hconfig
    rw [hloaded] at hload
    cases hload
  | rules hfilter hkinds =>
    obtain ⟨loaded, -, hselected⟩ := hconfig
    obtain ⟨e, herror⟩ := selected_eq_error.2 ⟨_, hfilter, hkinds⟩
    rw [hselected] at herror
    cases herror
  | engine hconfig' h =>
    obtain rfl := hunique _ hconfig'
    rw [hengine] at h
    cases h
  | exclude hconfig' hmem h =>
    obtain rfl := hunique _ hconfig'
    obtain ⟨covers, hcovers⟩ := Analysis.exists_excludes.1 ⟨excludes, hexcludes⟩ _ hmem
    rw [hcovers] at h
    cases h
  | discovery hconfig' hexcludes' h =>
    obtain rfl := hunique _ hconfig'
    obtain rfl := Except.ok.inj (hexcludes.symm.trans hexcludes')
    rw [hfound] at h
    cases h
  | read hdiscovers hmem h =>
    obtain rfl := hdiscovered _ hdiscovers
    obtain ⟨text, -, htext, -⟩ := hread _ hmem
    rw [htext] at h
    cases h
  | parse hdiscovers hmem htext h =>
    obtain rfl := hdiscovered _ hdiscovers
    obtain ⟨text, tree, htext', htree⟩ := hread _ hmem
    obtain rfl := Option.some.inj (htext'.symm.trans htext)
    rw [htree] at h
    cases h

/-! ## Writing -/

/-- A check that cannot read what it needs fails and leaves all files. -/
theorem run_of_fails (h : Fails tools fs target options source) :
    (∃ e, (run tools fs target options source).result = .error e) ∧
      (run tools fs target options source).files = fs := by
  unfold run
  rcases hrun : (inspect tools fs target options source).result with ⟨e | ⟨config, analysis⟩, log⟩
  · exact ⟨⟨e, rfl⟩, rfl⟩
  · have hgives : (inspect tools fs target options source).Gives [] (config, analysis) :=
      congrArg Prod.fst hrun
    obtain ⟨engine, files, hlooks, -⟩ := inspect_gives.1 hgives
    exact absurd h hlooks.not_fails

theorem files_run (hfix : options.fix = false) :
    (run tools fs target options source).files = fs := by
  unfold run
  rcases (inspect tools fs target options source).result with ⟨e | ⟨config, analysis⟩, log⟩
  · rfl
  · simp [hfix]

/-- Whatever is changed is a file of some that were found, in which a replacement is made. It holds
what the replacements for its own violations make of its text. -/
structure Touched (engine : Engine Rule) (files : List ParsedFile) (fs fs' : FileSystem) : Prop where
  current : fs'.current = fs.current
  changed : ∀ place, fs'.entry? place ≠ fs.entry? place →
    ∃ file ∈ files, fs.resolve? file.path = some place ∧
      fs.entry? place = some (.file (.text file.text)) ∧ (file.ownFix engine).applied ≠ [] ∧
      fs'.entry? place = some (.file (.text (file.ownFix engine).text))

/-- All files are fixed for their own violations, and nothing else is changed. -/
structure Rewritten (engine : Engine Rule) (files : List ParsedFile) (fs fs' : FileSystem) : Prop
    extends Touched engine files fs fs' where
  holds : ∀ file ∈ files, ∃ place, fs.resolve? file.path = some place ∧
    fs.entry? place = some (.file (.text file.text)) ∧
    fs'.entry? place = some (.file (.text (file.ownFix engine).text))

/-- A file in which a replacement is to be made is locked. -/
def Refused (engine : Engine Rule) (files : List ParsedFile) (fs : FileSystem) : Prop :=
  ∃ file ∈ files, (file.ownFix engine).applied ≠ [] ∧
    ∃ place ∈ fs.resolve? file.path, place ∈ fs.locked

namespace LooksAt

theorem touched (hwalk : tools.walk.Exact fs)
    (h : LooksAt tools fs target options source config engine files)
    (htouched : Fixes.Touched (Fixes.plan (.ofFiles engine files)) fs fs') :
    Touched engine files fs fs' where
  current := htouched.alike.current
  changed place hplace := by
    obtain ⟨fix, hfix, hresolve, hnew⟩ := htouched.changed place hplace
    obtain ⟨file, hfile, happlied, rfl⟩ :=
      (Fixes.mem_plan_iff (h.finds.nodup_display hwalk)).1 hfix
    obtain ⟨place', hplace', hentry⟩ := FileSystem.exists_of_readText? (h.finds.isRead hfile).text
    obtain rfl := Option.some.inj (hplace'.symm.trans hresolve)
    exact ⟨file, hfile, hresolve, hentry, happlied, hnew⟩

theorem rewritten (hwalk : tools.walk.Exact fs)
    (h : LooksAt tools fs target options source config engine files)
    (hwritten : Fixes.Written (Fixes.plan (.ofFiles engine files)) fs fs') :
    Rewritten engine files fs fs' where
  toTouched := h.touched hwalk hwritten.toTouched
  holds file hfile := by
    obtain ⟨place, hplace, hentry⟩ := FileSystem.exists_of_readText? (h.finds.isRead hfile).text
    obtain ⟨place', hplace', hentry'⟩ := FileSystem.exists_of_readText?
      (h.finds.readText?_written hwalk hwritten hfile)
    rw [hwritten.alike.resolve?, hplace] at hplace'
    obtain rfl := Option.some.inj hplace'
    rw [Fixes.text_corrected (h.finds.nodup_display hwalk) hfile] at hentry'
    exact ⟨place, hplace, hentry, hentry'⟩

/-- Writing fails exactly if a file is locked that is to be changed. -/
theorem write_eq_error_iff (hwalk : tools.walk.Exact fs)
    (h : LooksAt tools fs target options source config engine files) :
    (∃ e, (Fixes.write fs (Fixes.plan (.ofFiles engine files))).2.2 = .error e) ↔
      Refused engine files fs := by
  have hok := Fixes.write_eq_ok_iff h.finds.present
  simp only [Fixes.mem_plan_iff (h.finds.nodup_display hwalk)] at hok
  have herror : (∃ e, (Fixes.write fs (Fixes.plan (.ofFiles engine files))).2.2 = .error e) ↔
      ¬ (Fixes.write fs (Fixes.plan (.ofFiles engine files))).2.2 = .ok () := by
    rcases (Fixes.write fs (Fixes.plan (.ofFiles engine files))).2.2 with _ | _ <;> simp
  rw [herror, hok, Refused]
  push Not
  constructor
  · rintro ⟨_, ⟨file, hfile, happlied, rfl⟩, hlocked⟩
    exact ⟨file, hfile, happlied, hlocked⟩
  · rintro ⟨file, hfile, happlied, hlocked⟩
    exact ⟨_, ⟨file, hfile, happlied, rfl⟩, hlocked⟩

end LooksAt

/-- **What a check changes.** Without fixes nothing is changed. If one of the steps before the first
write fails, so does the check, and nothing is changed, also with fixes. Otherwise the check looks at
some files. It fails then only if a file is to be changed that is locked. What it changes are files in
which some replacement is made, and each of them holds what the replacements for its own violations
make of its text. If it succeeds with fixes, this holds of every file that it has found.

All that is relied on of the tools is that a walk gives entries by their names, and none twice, so that
files have different paths in the report. There are no links, so that these are different files. -/
theorem run_touches (hwalk : tools.walk.Exact fs) (target : String) (options : CheckOptions)
    (source : ConfigSource) :
    (options.fix = false → (run tools fs target options source).files = fs) ∧
    (Fails tools fs target options source →
      (∃ e, (run tools fs target options source).result = .error e) ∧
        (run tools fs target options source).files = fs) ∧
    (¬ Fails tools fs target options source →
      ∃ config engine files, LooksAt tools fs target options source config engine files ∧
        ((∃ e, (run tools fs target options source).result = .error e) ↔
          options.fix = true ∧ Refused engine files fs) ∧
        Touched engine files fs (run tools fs target options source).files ∧
        (options.fix = true → ∀ failed,
          (run tools fs target options source).result = .ok failed →
            Rewritten engine files fs (run tools fs target options source).files)) := by
  refine ⟨files_run, run_of_fails, fun hfails => ?_⟩
  obtain ⟨config, engine, files, hlooks⟩ :=
    (fails_or_looksAt tools fs target options source).resolve_left hfails
  refine ⟨config, engine, files, hlooks, ?_⟩
  cases hfix : options.fix with
  | false =>
    rw [files_run hfix, hlooks.result_run hfix]
    exact ⟨by simp, ⟨rfl, fun place hplace => absurd rfl hplace⟩, nofun⟩
  | true =>
    obtain ⟨hfiles, hresult⟩ := hlooks.run_fix hfix
    rw [hfiles, hresult, ← hlooks.write_eq_error_iff hwalk]
    refine ⟨?_, hlooks.touched hwalk (Fixes.write_touched hlooks.finds.present),
      fun _ failed hok => hlooks.rewritten hwalk (hlooks.finds.written hwalk ?_)⟩
    · cases (Fixes.write fs (Fixes.plan (.ofFiles engine files))).2.2 <;> simp [Except.map]
    · rcases hwrite : (Fixes.write fs (Fixes.plan (.ofFiles engine files))).2.2 with _ | _
      · simp [hwrite, Except.map] at hok
      · rfl

/-- A project with a file to fix, a file that may be excluded, and a file that is not checked. -/
def threeFiles : FileSystem where
  entries := .ofList [
    (["a.go"], .file (.text
      "package main\n\nimport \"log/slog\"\n\nfunc main() \x7b\n\tslog.Info(\"Ready\")\n\x7d\n")),
    (["b.go"], .file (.text "package main\n")),
    (["notes.txt"], .file (.text "Call slog.Info(\"Ready\").\n"))]

/-- A check of the notes has nothing to read as Go. -/
theorem fails_notes : Fails .bundled threeFiles "notes.txt" { fix := true } .default := by
  let config := Config.addPatterns {} []
  have hinput : ∃ excludes ∈ (Analysis.excludes Tools.bundled.glob?
        (config.analyzer.exclude ++ [])).toOption,
      ∃ found ∈ (Discovery.files threeFiles (Analysis.root threeFiles "notes.txt" config) Ignore.walk
        excludes config.analyzer.respectGitignore).toOption,
      ∃ file ∈ found, ∃ text ∈ threeFiles.readText? file.path,
        (Go.Reader.strict.tree? text).isNone = true := by decide +kernel
  obtain ⟨excludes, hexcludes, found, hfound, file, hfile, text, htext, htree⟩ := hinput
  simp only [Option.mem_def, Except.toOption_eq_some] at hexcludes hfound
  have hparse : Go.Reader.strict.read file.display text = .error (.parse file.display) := by
    rw [Go.Reader.read, Option.isNone_iff_eq_none.1 htree]
    rfl
  exact .parse ⟨config, excludes, ⟨_, rfl, rfl⟩, hexcludes, hfound⟩ hfile htext hparse

set_option maxRecDepth 20000 in
theorem run_touches_threeFiles :
    (run .bundled threeFiles "." {} .default).files = threeFiles ∧
    Fails .bundled threeFiles "notes.txt" { fix := true } .default ∧
    (run .bundled threeFiles "notes.txt" { fix := true } .default).files = threeFiles ∧
    ∃ engine files, Rewritten engine files threeFiles
        (run .bundled threeFiles "." { exclude := ["b.go"], fix := true } .default).files ∧
      ∃ file ∈ files, threeFiles.resolve? file.path = some ["a.go"] ∧
        (file.ownFix engine).applied ≠ [] := by
  have hwalk : Tools.bundled.walk.Exact threeFiles :=
    Ignore.walk_exact (FileSystem.named_of_keys (by decide))
  have hinput : ∃ files ∈ (bundledFiles threeFiles "." ["b.go"]).toOption,
      let analysis := Analysis.ofFiles bundledEngine files
      let written := Fixes.write threeFiles (Fixes.plan analysis)
      written.2.2.toOption = some () ∧ Fixes.left analysis (Fixes.plan analysis) .warning = 0 ∧
      FileSystem.entry? written.1 ["a.go"] ≠ threeFiles.entry? ["a.go"] := by
    decide +kernel
  obtain ⟨found, hfound, hwrite, hleft, hchanged⟩ := hinput
  have hbundled := looksAt_bundled (Except.toOption_eq_some.1 hfound) true
  have hok := hbundled.run_fix_eq_false rfl (Except.toOption_eq_some.1 hwrite) hleft
  rw [← (hbundled.run_fix rfl).1] at hchanged
  obtain ⟨hkept, -⟩ := run_touches hwalk "." {} .default
  obtain ⟨-, hfailed, -⟩ := run_touches hwalk "notes.txt" { fix := true } .default
  obtain ⟨-, -, hlooks⟩ := run_touches hwalk "." { exclude := ["b.go"], fix := true } .default
  obtain ⟨config, engine, files, -, -, -, hrewritten⟩ := hlooks fun hfails => by
    obtain ⟨⟨e, herror⟩, -⟩ := run_of_fails hfails
    rw [hok] at herror
    cases herror
  have hrewritten := hrewritten rfl false hok
  obtain ⟨file, hfile, hplace, -, happlied, -⟩ := hrewritten.changed _ hchanged
  exact ⟨hkept rfl, fails_notes, (hfailed fails_notes).2, engine, files, hrewritten, file, hfile,
    hplace, happlied⟩

end Check

end LogStyle
