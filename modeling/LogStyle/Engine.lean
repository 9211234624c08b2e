import LogStyle.Config.Basic
import LogStyle.LoggingApi
import LogStyle.Message
import LogStyle.Violation

/-!
# Checking files

The engine finds the logging calls of a file, reads their messages and asks each rule about each
fragment.

* `Violation.ofFinding`: the violation for what a rule found in a message.
* `Engine.ofRules`: the rules that a configuration leaves on, with their severities.
* `Engine.ofConfig`: the engine with all built-in rules and the configured patterns.
* `Engine.check`, `Engine.checkAll`: the violations of one file and of several files.
-/

namespace LogStyle

/-- What is said with every replacement. -/
def replacementAdvice : String := "rewrite the log message"

/-- The corrected text that a finding proposes: it has to differ from the text and not be empty. -/
def Finding.proposal? (finding : Finding) : Option String :=
  finding.fixed.filter fun fixed => !fixed.isEmpty && fixed ≠ finding.text

variable {ρ : Type} [MessageRule ρ]

/-- The violation for what a rule found in a message. It is placed on the whole message, and so is
its replacement, which is there only if the message may be replaced. -/
def Violation.ofFinding (file : String) (message : Expr) (rule : ρ) (severity : Severity)
    (finding : Finding) (replaceable : Bool) : Violation :=
  let location := Location.ofSpan file message.span
  { code := MessageRule.code rule
    rule := MessageRule.name rule
    severity := severity
    location := location
    message := MessageRule.message rule
    suggestion :=
      if replaceable then
        finding.proposal?.map fun fixed =>
          ⟨replacementAdvice, some ⟨location, Literal.quote fixed⟩⟩
      else none }

/-- A rule and the severity of its violations. -/
structure ConfiguredRule (ρ : Type) where
  rule : ρ
  severity : Severity

/-- The rules of a check, in the order in which they judge. -/
structure Engine (ρ : Type) where
  rules : List (ConfiguredRule ρ)

namespace Engine

/-- The rules that a configuration leaves on, with their severities. -/
def ofRules (config : Config) (rules : List ρ) : Engine ρ where
  rules := (rules.filter fun rule => config.isEnabled (MessageRule.name rule)).map fun rule =>
    ⟨rule, (config.severity? (MessageRule.name rule)).getD (MessageRule.defaultSeverity rule)⟩

/-- All built-in rules with the configured patterns, as far as they are on. -/
def ofConfig (regex? : String → Option Pattern.Regex) (config : Config) :
    Except Sensitive.PatternError (Engine Rule) := do
  let patterns ← Sensitive.compileWithBuiltins regex? config.sensitivePatterns
  return ofRules config (Rule.all patterns)

def ruleNames (engine : Engine ρ) : List String :=
  engine.rules.map fun configured => MessageRule.name configured.rule

/-- What the rules find in the fragment of a message with the given index. -/
def checkFragment (engine : Engine ρ) (file : String) (message : Expr) (text : String)
    (index : Nat) : List Violation :=
  engine.rules.filterMap fun configured =>
    if MessageRule.appliesTo configured.rule index then
      (MessageRule.check? configured.rule text index).map fun finding =>
        .ofFinding file message configured.rule configured.severity finding
          (Message.isReplaceable message)
    else none

/-- What the rules find in a message, fragment by fragment. -/
def checkMessage (engine : Engine ρ) (file : String) (message : Expr) : List Violation :=
  (Message.fragments message).zipIdx.flatMap fun (text, index) =>
    engine.checkFragment file message text index

/-- The violations of a call, none unless it is a logging call. -/
def checkCall (engine : Engine ρ) (file : String) (types : Resolver) (call : Expr) : List Violation :=
  match LoggingApi.resolve? types call with
  | some argument => engine.checkMessage file argument.expr
  | none => []

/-- The violations of a file, in the order of its calls. -/
def check (engine : Engine ρ) (unit : SourceUnit) (types : Resolver) : List Violation :=
  unit.calls.flatMap (engine.checkCall unit.path types)

/-- The violations of several files, sorted. -/
def checkAll (engine : Engine ρ) (units : List (SourceUnit × Resolver)) : LintResult :=
  LintResult.sort {
    violations := units.flatMap fun (unit, types) => engine.check unit types
    filesChecked := units.length }

end Engine

end LogStyle
