import LogStyle.Command.Error
import LogStyle.Text.Split

/-!
# Choosing rules

A check may be asked to judge by some rules only. They are given by names or codes between commas.

* `Selection.parts`: the names and codes of a filter.
* `Selection.kinds`: the rules that a filter asks for.
* `Config.enableOnly`: a configuration with exactly some rules on.
* `Config.select`: a configuration as a filter asks for it.
-/

namespace LogStyle

namespace Selection

/-- The names and codes of a filter, trimmed and without empty ones. -/
def parts (filter : String) : List String :=
  ((Text.splitString ',' filter).map Text.trimString).filter (!·.isEmpty)

/-- The rules that a filter asks for. -/
def kinds (filter : String) : List RuleKind := (parts filter).filterMap RuleKind.find?

/-- The parts of a filter that belong to no rule. -/
def unknown (filter : String) : List String :=
  (parts filter).filter fun part => (RuleKind.find? part).isNone

end Selection

namespace Config

/-- Switches a rule on or off and leaves its severity. -/
def setEnabled (config : Config) (name : String) (enabled : Bool) : Config :=
  let rule := (config.rules.get? name).getD {}
  { config with rules := config.rules.insert name { rule with enabled := some enabled } }

/-- The configuration with exactly some rules on. -/
def enableOnly (config : Config) (kinds : List RuleKind) : Config :=
  RuleKind.all.foldl (fun c kind => c.setEnabled kind.name (kinds.contains kind)) config

/-- The configuration with exactly the rules on that a filter asks for, unless there are none. -/
def select (config : Config) (filter : String) : Except CommandError Config :=
  match Selection.kinds filter with
  | [] => .error .noKnownRule
  | kinds => .ok (config.enableOnly kinds)

/-- The configuration with further patterns of sensitive words. -/
def addPatterns (config : Config) (patterns : List String) : Config :=
  { config with sensitivePatterns := config.sensitivePatterns ++ patterns }

end Config

end LogStyle
