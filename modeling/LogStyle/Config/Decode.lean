import LogStyle.Config.Basic
import LogStyle.Toml.Parser

/-!
# Reading configurations

A configuration file is a TOML document. Keys that are not known are ignored. A record may also be
given as an array of its first fields, in the order in which they are declared.

* `ConfigError`: why a file is no configuration.
* `Settings.ofValue`: the settings, which have their own errors.
* `Config.parse`: a configuration from its text.
-/

namespace LogStyle

open Toml

/-- Why a text is no configuration. -/
inductive ConfigError where
  /-- The file cannot be read as a text. -/
  | unreadable
  /-- The text is not TOML, or a value has the wrong type. -/
  | malformed
  /-- A setting has a value that it cannot have. -/
  | invalid (key reason : String)
  deriving DecidableEq, Repr

/-- What is said of a setting that is not valid. -/
def ConfigError.message : ConfigError → String
  | unreadable => "Failed to read config file"
  | malformed => "Failed to parse config"
  | invalid key reason => "Invalid configuration for '" ++ key ++ "': " ++ reason

namespace Config

/-- The fields of a record: by name from a table, by place from an array. A date has no field with
a name that matters. -/
def fields? : Value → Option (String → Nat → Option Value)
  | .table entries => some fun name _ => entries.lookup name
  | .array items => some fun _ index => items[index]?
  | .datetime _ => some fun _ _ => none
  | _ => none

/-- An optional field, read if it is there. -/
def field (read : Value → Option α) (default : α) : Option Value → Option α
  | none => some default
  | some v => read v

def text? : Value → Option String
  | .string s => some s
  | _ => none

def texts? : Value → Option (List String)
  | .array items => items.mapM text?
  | _ => none

def flag? : Value → Option Bool
  | .boolean b => some b
  | _ => none

/-- A severity is given by its name, or by a table with the name as its only key and nothing in
it. -/
def severityValue? : Value → Option Severity
  | .string s => Severity.ofName? s
  | .table [(name, .table [])] => Severity.ofName? name
  | .table [(name, .array [])] => Severity.ofName? name
  | _ => none

def analyzer? (v : Value) : Option AnalyzerConfig := do
  let get ← fields? v
  let root ← field text? "." (get "root" 0)
  let exclude ← field texts? ({} : AnalyzerConfig).exclude (get "exclude" 1)
  let respectGitignore ← field flag? true (get "respect_gitignore" 2)
  some ⟨root, exclude, respectGitignore⟩

def ruleConfig? (v : Value) : Option RuleConfig := do
  let get ← fields? v
  let enabled ← field (fun v => (flag? v).map some) none (get "enabled" 0)
  let severity ← field (fun v => (severityValue? v).map some) none (get "severity" 1)
  some ⟨enabled, severity⟩

def rules? : Value → Option (Bindings String RuleConfig)
  | .table entries => do
    let rules ← entries.mapM fun (name, v) => (ruleConfig? v).map (name, ·)
    some (.ofList rules)
  | _ => none

end Config

namespace Settings

/-- The keys under which the patterns may stand, the preferred one first. -/
def patternKeys : List String := ["sensitive-patterns", "sensitive_patterns", "sensitivePatterns"]

/-- A trimmed text, if something remains. -/
def pattern? (s : String) : Option String :=
  let trimmed := Text.trimString s
  if trimmed.isEmpty then none else some trimmed

/-- One text or a list of texts, trimmed and without blank ones. -/
def patterns (key : String) : Value → Except ConfigError (List String)
  | .string s => .ok (pattern? s).toList
  | .array items => do
    let found ← items.mapM fun
      | .string s => .ok (pattern? s)
      | other => .error (.invalid key ("list element is not a string: " ++ other.typeName))
    .ok (found.filterMap id)
  | other => .error (.invalid key ("expected a list of strings, got " ++ other.typeName))

/-- The configured patterns of sensitive words. -/
def ofValue : Value → Except ConfigError (List String)
  | .table entries =>
    match patternKeys.findSome? fun key => (entries.lookup key).map (key, ·) with
    | some (key, v) => patterns key v
    | none => .ok []
  | other => .error (.invalid "settings" ("expected a table, got " ++ other.typeName))

end Settings

namespace Config

/-- The parts of a configuration but the settings. -/
def ofTable? (doc : Value) : Option Config := do
  let failOn ← field (fun v => (severityValue? v).map some) none (doc.get? "fail_on")
  let analyzer ← field analyzer? {} (doc.get? "analyzer")
  let rules ← field rules? .empty (doc.get? "rules")
  some { failOn := failOn, analyzer := analyzer, rules := rules }

/-- A configuration from its text. The settings are looked at last. -/
def parse (text : String) : Except ConfigError Config :=
  match Toml.parse? text with
  | none => .error .malformed
  | some doc =>
    match ofTable? doc with
    | none => .error .malformed
    | some config => do
      let patterns ← match doc.get? "settings" with
        | none => .ok []
        | some v => Settings.ofValue v
      .ok { config with sensitivePatterns := patterns }

end Config

end LogStyle
