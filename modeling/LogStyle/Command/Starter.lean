import LogStyle.Command.Check

/-!
# The starter configuration

A configuration file to begin with: it says what is the default anyway, with a word on each setting.

* `Starter.text`: the file.
* `Starter.run`: writes the file to the current directory.
-/

namespace LogStyle.Starter

/-- The lines of the file. -/
def lines : List String := [
  "# logmsglint configuration",
  "",
  "# Lowest severity that makes \x60logmsglint check\x60 exit with status 1",
  "# (\"info\", \"warning\" or \"error\").",
  "fail_on = \"warning\"",
  "",
  "[analyzer]",
  "# Root directory to analyze, relative to the checked path",
  "# root = \".\"",
  "",
  "# Glob patterns to exclude from analysis",
  "exclude = [",
  "    \"**/vendor/**\",",
  "    \"**/testdata/**\",",
  "]",
  "",
  "# Respect .gitignore files",
  "respect_gitignore = true",
  "",
  "[settings]",
  "# Extra sensitive-data patterns (regular expressions, matched",
  "# case-insensitively), checked after the built-in set.",
  "sensitive-patterns = [",
  "    # '\\bsession[_-]?id\\b',",
  "]",
  "",
  "# Rule configurations",
  "# Each rule can be enabled/disabled and have its severity overridden",
  "",
  "[rules.lowercase-start]",
  "enabled = true",
  "",
  "[rules.english-only]",
  "enabled = true",
  "",
  "[rules.no-special-chars]",
  "enabled = true",
  "",
  "[rules.no-sensitive-data]",
  "enabled = true",
  "# severity = \"error\""]

/-- The file. -/
def text : String := String.join (lines.map (· ++ "\n"))

/-- The name of the file. -/
def fileName : String := "logmsglint.toml"

/-- What is said when the file is written. -/
def output : String :=
  "Created " ++ fileName ++ "\n\nNext steps:\n  1. Edit " ++ fileName
    ++ " to configure rules\n  2. Run: logmsglint check\n"

/-- Writes the file to the current directory. What is there already stays, unless it is forced. -/
def run (fs : FileSystem) (force : Bool) : Outcome Unit :=
  if fs.exists? fileName && !force then
    { files := fs, result := .error (.configExists fileName) }
  else
    match fs.write? fileName text with
    | none => { files := fs, result := .error (.unwritable fileName) }
    | some files => { output := output, files := files, result := .ok () }

end LogStyle.Starter
