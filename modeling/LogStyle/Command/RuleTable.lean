import LogStyle.Rule

/-!
# The table of rules
-/

namespace LogStyle.RuleTable

/-- A text filled up with spaces to a width. -/
def pad (columns : Nat) (text : String) : String :=
  text ++ String.ofList (List.replicate (columns - text.length) ' ')

/-- A row of the table. -/
def row (code name fix description : String) : String :=
  pad 8 code ++ " " ++ pad 20 name ++ " " ++ pad 6 fix ++ " " ++ description

/-- The row of a rule. -/
def rowOf (kind : RuleKind) : String :=
  row kind.code kind.name (if kind.isFixable then "yes" else "-") kind.description

/-- The lines of the table, with advice on how to choose rules. -/
def lines : List String :=
  ["Available rules:", "", row "Code" "Name" "Fix" "Description",
    String.ofList (List.replicate 90 '-')]
  ++ RuleKind.all.map rowOf
  ++ ["",
    "All rules are enabled by default. Disable one in logmsglint.toml:",
    "  [rules.english-only]",
    "  enabled = false",
    "",
    "Use --rules to run a subset, e.g.:",
    "  logmsglint check --rules lowercase-start,no-sensitive-data",
    "  logmsglint check --rules LM001,LM004"]

/-- The table, each line ended. -/
def text : String := String.join (lines.map (· ++ "\n"))

end LogStyle.RuleTable
