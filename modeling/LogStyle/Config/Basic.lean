import LogStyle.Bindings
import LogStyle.Rule

/-!
# Configurations

What a user may configure: when a check fails, which files it looks at, the patterns of sensitive
words, and for each rule whether it is on and how grave its violations are.
-/

namespace LogStyle

/-- Which files a check looks at. -/
structure AnalyzerConfig where
  root : String := "."
  exclude : List String := ["**/vendor/**", "**/testdata/**"]
  respectGitignore : Bool := true
  deriving DecidableEq, Repr

/-- What is configured for one rule. -/
structure RuleConfig where
  enabled : Option Bool := none
  severity : Option Severity := none
  deriving DecidableEq, Repr

/-- A configuration. Rules are configured by name, and a name may belong to no rule. -/
structure Config where
  failOn : Option Severity := none
  analyzer : AnalyzerConfig := {}
  sensitivePatterns : List String := []
  rules : Bindings String RuleConfig := .empty

namespace Config

/-- The severity from which on a violation makes a check fail. -/
def failThreshold (config : Config) : Severity := config.failOn.getD .warning

/-- A rule is on unless it is switched off. -/
def isEnabled (config : Config) (rule : String) : Bool :=
  ((config.rules.get? rule).bind (·.enabled)).getD true

def severity? (config : Config) (rule : String) : Option Severity :=
  (config.rules.get? rule).bind (·.severity)

/-- The configured names that belong to no rule. -/
def unknownRules (config : Config) : List String :=
  config.rules.keys.filter fun name => (RuleKind.find? name).isNone

end Config

end LogStyle
