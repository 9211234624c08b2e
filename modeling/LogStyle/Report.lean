import LogStyle.Report.Json
import LogStyle.Snippet

/-!
# Reports

The outcome of a check as a text, in one of four formats.

* `Report.summary`: the numbers at the end of a report for a reader.
* `Report.render`: the report in a format.
-/

namespace LogStyle.Report

/-- The formats of a report. -/
inductive Format where
  | text
  | json
  | compact
  | pretty
  deriving DecidableEq, Repr

namespace Format

def all : List Format := [text, json, compact, pretty]

def name : Format → String
  | text => "text"
  | json => "json"
  | compact => "compact"
  | pretty => "pretty"

def ofName? (name : String) : Option Format := all.find? (·.name = name)

end Format

/-- The texts of the checked files, by their paths in the report. -/
abbrev Sources := List (String × String)

/-- The text of a checked file. -/
def sourceOf? (sources : Sources) (file : String) : Option String :=
  (sources.find? fun source => Path.same source.1 file).map (·.2)

/-- The colour of a summary: red for errors, yellow for warnings, green otherwise. -/
def colour (r : LintResult) : String :=
  if 0 < r.count .error then "\x1b[31m"
  else if 0 < r.count .warning then "\x1b[33m"
  else "\x1b[32m"

/-- The numbers at the end of a report for a reader. -/
def summary (r : LintResult) : String :=
  let found := colour r ++ "Found " ++ toString (r.count .error) ++ " error(s), "
    ++ toString (r.count .warning) ++ " warning(s), " ++ toString (r.count .info) ++ " info(s) in "
    ++ toString r.filesChecked ++ " file(s)\x1b[0m\n"
  if 0 < r.fixableCount then
    found ++ toString r.fixableCount ++ " violation(s) can be fixed with --fix\n"
  else found

def locationJson (l : Location) : Json := .object [
  ("file", .string l.file), ("line", .number l.line), ("column", .number l.column),
  ("offset", .number l.offset), ("length", .number l.length)]

def replacementJson (r : Replacement) : Json :=
  .object [("location", locationJson r.location), ("new_text", .string r.newText)]

def suggestionJson (s : Suggestion) : Json := .object [
  ("message", .string s.message),
  ("replacement", (s.replacement.map replacementJson).getD .null)]

def violationJson (v : Violation) : Json := .object [
  ("code", .string v.code), ("rule", .string v.rule), ("severity", .string v.severity.name),
  ("location", locationJson v.location), ("message", .string v.message),
  ("suggestion", (v.suggestion.map suggestionJson).getD .null)]

/-- A report for another program. -/
def json (r : LintResult) : Json := .object [
  ("violations", .array (r.violations.map violationJson)),
  ("files_checked", .number r.filesChecked),
  ("summary", .object [
    ("errors", .number (r.count .error)), ("warnings", .number (r.count .warning)),
    ("infos", .number (r.count .info)), ("fixable", .number r.fixableCount)])]

/-- The report in a format. -/
def render (format : Format) (r : LintResult) (sources : Sources) : String :=
  match format with
  | .text => String.join (r.violations.map fun v => v.text ++ "\n") ++ summary r
  | .json => (json r).render 0 ++ "\n"
  | .compact => String.join (r.violations.map fun v => v.compact ++ "\n")
  | .pretty =>
    String.join (r.violations.map fun v =>
      Snippet.render v (sourceOf? sources v.location.file) ++ "\n") ++ summary r

end LogStyle.Report
