import LogStyle.Command.Fixes
import LogStyle.Command.Selection
import LogStyle.Report

/-!
# The check command

* `Check.prepare`: the configuration of a check, with what was asked for on the command line.
* `Check.run`: the outcome of a check.
-/

namespace LogStyle

/-- What a command leaves behind: what it says and prints, the file system after it, and its result
or failure. -/
structure Outcome (α : Type) where
  log : List LogLine := []
  output : String := ""
  files : FileSystem
  result : Except CommandError α

/-- What may be asked of a check. -/
structure CheckOptions where
  format : Report.Format := .text
  /-- The only rules to judge by. -/
  rules : Option String := none
  exclude : List String := []
  sensitivePatterns : List String := []
  /-- Whether to make the replacements. -/
  fix : Bool := false
  deriving DecidableEq, Repr

namespace Check

/-- Restricts a configuration to the rules that were asked for. -/
def restrict (config : Config) : Option String → Logged Config
  | none => return config
  | some filter => do
    (Selection.unknown filter).forM fun name => Logged.say .warn ("Unknown rule: " ++ name)
    config.select filter

/-- The configuration of a check, with what was asked for on the command line. -/
def prepare (fs : FileSystem) (source : ConfigSource) (options : CheckOptions) : Logged Config := do
  if let some line := source.note? then Logged.say line.level line.text
  let config ← (source.load fs).mapError CommandError.config
  restrict (config.addPatterns options.sensitivePatterns) options.rules

/-- All of a check that only reads: its configuration, and what it finds. -/
def inspect (tools : Tools) (fs : FileSystem) (target : String) (options : CheckOptions)
    (source : ConfigSource) : Logged (Config × Analysis) := do
  let config ← prepare fs source options
  let analysis ← Analysis.run tools fs target config options.exclude
  return (config, analysis)

/-- Makes the replacements of an analysis. The result tells whether a violation from the threshold
on remains. -/
def fix (fs : FileSystem) (analysis : Analysis) (threshold : Severity) : Outcome Bool :=
  let fixes := Fixes.plan analysis
  let (files, log, written) := Fixes.write fs fixes
  match written with
  | .error e => { log := log, files := files, result := .error e }
  | .ok _ =>
    { log := log ++ [Fixes.note analysis fixes]
      files := files
      result := .ok (0 < Fixes.left analysis fixes threshold) }

/-- The outcome of a check. The result tells whether it failed: whether a violation from the
configured threshold on was found, or remains after the fixes. -/
def run (tools : Tools) (fs : FileSystem) (target : String) (options : CheckOptions)
    (source : ConfigSource) : Outcome Bool :=
  match (inspect tools fs target options source).result with
  | (.error e, log) => { log := log, files := fs, result := .error e }
  | (.ok (config, analysis), log) =>
    let output := Report.render options.format analysis.result analysis.sources
    if options.fix then
      let fixed := fix fs analysis config.failThreshold
      { fixed with log := log ++ fixed.log, output := output }
    else
      { log := log
        output := output
        files := fs
        result := .ok (analysis.result.reaches config.failThreshold) }

end Check

end LogStyle
