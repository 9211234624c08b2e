import LogStyle.Rule.Lowercase
import LogStyle.Rule.Sensitive
import LogStyle.Rule.Special
import LogStyle.Severity
import LogStyle.Text.Alphabet

/-!
# The rules on message texts

A rule judges one fragment of a message and may know a corrected text.

* `MessageRule`: what can serve as a rule.
* `RuleKind`: the four built-in rules, with the words by which they are known.
* `RuleKind.find?`: a rule by its name or code.
* `Rule.check?`: what a built-in rule finds in a text.
* `Rule.all`: the rules in the order in which they judge.
-/

namespace LogStyle

/-- What a rule finds in a text: the text itself and, if the rule knows one, a corrected text. -/
structure Finding where
  text : String
  fixed : Option String := none
  deriving DecidableEq, Repr

/-- What can serve as a rule: it has a name and a code, and judges the fragments of a message by their
texts and indices. -/
class MessageRule (ρ : Type) where
  name : ρ → String
  code : ρ → String
  /-- What is said of a message that breaks the rule. -/
  message : ρ → String
  defaultSeverity : ρ → Severity := fun _ => .warning
  /-- Whether the rule judges the fragment of a message with the given index. -/
  appliesTo : ρ → (index : Nat) → Bool := fun _ _ => true
  check? : ρ → (text : String) → (index : Nat) → Option Finding

/-- The built-in rules. -/
inductive RuleKind where
  | lowercaseStart
  | englishOnly
  | noSpecialChars
  | noSensitiveData
  deriving DecidableEq, Repr

namespace RuleKind

/-- The rules in the order in which they judge a text. -/
def all : List RuleKind := [lowercaseStart, englishOnly, noSpecialChars, noSensitiveData]

def code : RuleKind → String
  | lowercaseStart => "LM001"
  | englishOnly => "LM002"
  | noSpecialChars => "LM003"
  | noSensitiveData => "LM004"

def name : RuleKind → String
  | lowercaseStart => "lowercase-start"
  | englishOnly => "english-only"
  | noSpecialChars => "no-special-chars"
  | noSensitiveData => "no-sensitive-data"

def description : RuleKind → String
  | lowercaseStart => "Log messages must start with a lowercase letter"
  | englishOnly => "Log messages must only use Latin letters"
  | noSpecialChars => "Log messages must not contain !, ?, ellipses or emoji"
  | noSensitiveData => "Log messages must not mention passwords, tokens, keys or other secrets"

/-- What is said of a message that breaks the rule. -/
def message : RuleKind → String
  | lowercaseStart => "log message must start with a lowercase English letter"
  | englishOnly =>
    "log message must contain only English text (Cyrillic and other scripts are not allowed)"
  | noSpecialChars => "log message must not contain special characters (!, ?, ...) or emoji"
  | noSensitiveData => "log message contains potentially sensitive data"

/-- Whether the rule can suggest another text. -/
def isFixable : RuleKind → Bool
  | englishOnly => false
  | _ => true

def defaultSeverity (_ : RuleKind) : Severity := .warning

/-- Whether the rule judges the fragment of a message with the given index. -/
def appliesTo : RuleKind → (index : Nat) → Bool
  | lowercaseStart, index => index = 0
  | _, _ => true

def ofName? (name : String) : Option RuleKind := all.find? (·.name = name)

/-- A rule by its name, or by its code in any case. -/
def find? (text : String) : Option RuleKind :=
  all.find? fun kind => kind.name = text || Text.lowercase kind.code = Text.lowercase text

end RuleKind

/-- A built-in rule that is ready to judge. -/
inductive Rule where
  | lowercaseStart
  | englishOnly
  | noSpecialChars
  | noSensitiveData (patterns : List Sensitive.Pattern)
  deriving DecidableEq, Repr

namespace Rule

def kind : Rule → RuleKind
  | lowercaseStart => .lowercaseStart
  | englishOnly => .englishOnly
  | noSpecialChars => .noSpecialChars
  | noSensitiveData _ => .noSensitiveData

/-- The rule of a kind, with the patterns for the kind that needs them. -/
def ofKind (patterns : List Sensitive.Pattern) : RuleKind → Rule
  | .lowercaseStart => lowercaseStart
  | .englishOnly => englishOnly
  | .noSpecialChars => noSpecialChars
  | .noSensitiveData => noSensitiveData patterns

/-- What a rule finds in a text. -/
def check? (rule : Rule) (text : String) : Option Finding :=
  let cs := text.toList
  match rule with
  | lowercaseStart =>
    (Lowercase.lowered? cs).map fun fixed => ⟨text, some (String.ofList fixed)⟩
  | englishOnly => if cs.any Text.isForeignLetter then some ⟨text, none⟩ else none
  | noSpecialChars =>
    if Special.occurs cs then some ⟨text, some (String.ofList (Special.strip cs))⟩ else none
  | noSensitiveData patterns =>
    if Sensitive.occurs patterns cs then
      some ⟨text, some (String.ofList (Sensitive.redact patterns cs))⟩
    else none

instance : MessageRule Rule where
  name rule := rule.kind.name
  code rule := rule.kind.code
  message rule := rule.kind.message
  defaultSeverity rule := rule.kind.defaultSeverity
  appliesTo rule := rule.kind.appliesTo
  check? rule text _ := rule.check? text

section

variable (rule : Rule)

@[simp] theorem name_eq : MessageRule.name rule = rule.kind.name := rfl

@[simp] theorem code_eq : MessageRule.code rule = rule.kind.code := rfl

@[simp] theorem message_eq : MessageRule.message rule = rule.kind.message := rfl

@[simp] theorem defaultSeverity_eq :
    MessageRule.defaultSeverity rule = rule.kind.defaultSeverity := rfl

@[simp] theorem appliesTo_eq : MessageRule.appliesTo rule = rule.kind.appliesTo := rfl

@[simp] theorem check?_eq (text : String) (index : Nat) :
    MessageRule.check? rule text index = rule.check? text := rfl

end

/-- All rules, in the order in which they judge. -/
def all (patterns : List Sensitive.Pattern) : List Rule := RuleKind.all.map (ofKind patterns)

end Rule

end LogStyle
