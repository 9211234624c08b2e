import LogStyle.Path
import LogStyle.Severity
import LogStyle.Span

/-!
# Violations

* `Violation.text`, `Violation.compact`: a violation in several lines and in one line.
* `Violation.notice`: what a report with source lines shows of a violation.
* `LintResult.sort`: the order of a report, by file, line and column.
-/

namespace LogStyle

/-- A stretch of a file. -/
structure Location where
  file : String
  line : Nat
  column : Nat
  offset : Nat
  length : Nat
  deriving DecidableEq, Repr

def Location.ofSpan (file : String) (span : Span) : Location where
  file := file
  line := span.start.line
  column := span.start.column
  offset := span.start.offset
  length := span.length

/-- A text that may take the place of a stretch of a file. -/
structure Replacement where
  location : Location
  newText : String
  deriving DecidableEq, Repr

/-- Advice on a violation. -/
structure Suggestion where
  message : String
  replacement : Option Replacement
  deriving DecidableEq, Repr

/-- A message that breaks a rule. -/
structure Violation where
  code : String
  rule : String
  severity : Severity
  location : Location
  message : String
  suggestion : Option Suggestion := none
  deriving DecidableEq, Repr

/-- A violation as a report with source lines shows it. -/
structure Notice where
  message : String
  help : Option String
  offset : Nat
  length : Nat
  label : String
  deriving DecidableEq, Repr

namespace Violation

def replacement? (v : Violation) : Option Replacement := v.suggestion.bind (·.replacement)

def isFixable (v : Violation) : Bool := v.replacement?.isSome

/-- Where a violation is, for a reader. -/
def place (v : Violation) : String :=
  v.location.file ++ ":" ++ toString v.location.line ++ ":" ++ toString v.location.column

/-- The violation in several lines, each of them ended. -/
def text (v : Violation) : String :=
  let head := v.code ++ " " ++ v.rule ++ " at " ++ v.place ++ "\n"
    ++ "  " ++ v.severity.name ++ ": " ++ v.message ++ "\n"
  match v.suggestion with
  | none => head
  | some s =>
    let help := head ++ "  = help: " ++ s.message ++ "\n"
    match s.replacement with
    | none => help
    | some r => help ++ "  = fix: " ++ r.newText ++ "\n"

/-- The violation in one line. -/
def compact (v : Violation) : String :=
  v.place ++ ": " ++ v.severity.name ++ " [" ++ v.code ++ "] " ++ v.message

def notice (v : Violation) : Notice where
  message := "[" ++ v.code ++ "] " ++ v.message
  help := v.suggestion.map fun s =>
    match s.replacement with
    | some r => s.message ++ ": " ++ r.newText
    | none => s.message
  offset := v.location.offset
  length := v.location.length
  label := v.rule

/-- The order of a report: by file, line and column. -/
def compareByPlace (v w : Violation) : Ordering :=
  (Path.compare v.location.file w.location.file).then
    ((compare v.location.line w.location.line).then (compare v.location.column w.location.column))

end Violation

/-- The outcome of a check. -/
structure LintResult where
  violations : List Violation := []
  filesChecked : Nat := 0
  deriving DecidableEq, Repr

namespace LintResult

/-- The number of violations of a severity. -/
def count (r : LintResult) (s : Severity) : Nat := r.violations.countP (·.severity = s)

/-- The number of violations that carry a replacement. -/
def fixableCount (r : LintResult) : Nat := r.violations.countP Violation.isFixable

/-- Whether some violation reaches a threshold. -/
def reaches (r : LintResult) (threshold : Severity) : Bool :=
  r.violations.any (·.severity.reaches threshold)

/-- The violations by file, line and column; those at one place keep their order. -/
def sort (r : LintResult) : LintResult :=
  { r with violations := r.violations.mergeSort fun v w => (v.compareByPlace w).isLE }

end LintResult

end LogStyle
