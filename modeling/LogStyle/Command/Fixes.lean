import LogStyle.Command.Analysis
import LogStyle.Edit

/-!
# Fixing files

The replacements of a file's violations are made together, as far as they can be. A file is written
only if some replacement is made in it.

* `FileFix.of?`: what is done to a file.
* `Fixes.plan`: what is done to all files.
* `Fixes.left`: how many violations from a threshold on remain.
* `Fixes.write`: the file system after the fixes.
-/

namespace LogStyle

/-- What is done to a file: the outcome of its replacements, and for each replacement the place of
its violation in the report. -/
structure FileFix where
  file : SourceFile
  outcome : Edit.Outcome
  violations : List Nat
  deriving Repr

namespace FileFix

/-- The replacements for a file, each with the place of its violation in the report. -/
def replacements (violations : List Violation) (display : String) : List (Replacement × Nat) :=
  violations.zipIdx.filterMap fun (v, index) =>
    if Path.same v.location.file display then v.replacement?.map (·, index) else none

/-- What is done to a file, unless nothing is. -/
def of? (violations : List Violation) (file : SourceFile) : Option FileFix :=
  let found := replacements violations file.display
  let outcome := Edit.apply file.text (found.map (·.1))
  if outcome.applied.isEmpty then none else some ⟨file, outcome, found.map (·.2)⟩

/-- The places in the report of the violations that are fixed. -/
def fixed (fix : FileFix) : List Nat :=
  fix.outcome.applied.filterMap fun index => fix.violations[index]?

/-- How many replacements are left for another run. -/
def skipped (fix : FileFix) : Nat := fix.outcome.skipped fix.violations.length

/-- What is said of a file that is fixed. -/
def note? (fix : FileFix) : Option LogLine :=
  if 0 < fix.skipped then
    some ⟨.info, fix.file.display ++ ": " ++ toString fix.skipped
      ++ " overlapping fix(es) left for the next run"⟩
  else none

end FileFix

namespace Fixes

/-- What is done to all files. -/
def plan (analysis : Analysis) : List FileFix :=
  analysis.files.filterMap (FileFix.of? analysis.result.violations)

/-- Whether the violation at a place in the report is fixed. -/
def isFixed (fixes : List FileFix) (index : Nat) : Bool := fixes.any (·.fixed.contains index)

/-- How many violations are fixed. -/
def count (analysis : Analysis) (fixes : List FileFix) : Nat :=
  analysis.result.violations.zipIdx.countP fun (_, index) => isFixed fixes index

/-- How many violations from a threshold on remain. -/
def left (analysis : Analysis) (fixes : List FileFix) (threshold : Severity) : Nat :=
  analysis.result.violations.zipIdx.countP fun (v, index) =>
    !isFixed fixes index && v.severity.reaches threshold

/-- Writes the fixed files one after the other, up to the first one that cannot be written, and says
what is left in each of them. -/
def write (fs : FileSystem) : List FileFix → FileSystem × List LogLine × Except CommandError Unit
  | [] => (fs, [], .ok ())
  | fix :: rest =>
    match fs.write? fix.file.path fix.outcome.text with
    | none => (fs, [], .error (.unwritable fix.file.path))
    | some fs =>
      let (fs, log, result) := write fs rest
      (fs, fix.note?.toList ++ log, result)

/-- What is said of all fixes. -/
def note (analysis : Analysis) (fixes : List FileFix) : LogLine :=
  ⟨.info, "Applied " ++ toString (count analysis fixes) ++ " fix(es) in "
    ++ toString fixes.length ++ " file(s)"⟩

end Fixes

end LogStyle
