import LogStyle.Pattern.Search
import LogStyle.Text.Blank
import LogStyle.Text.Quoted

/-!
# Sensitive words

Patterns for words that should not show up in a log. Which texts are patterns, and what they mean, is
given.

* `Sensitive.compile`: the patterns of a list of texts, or the first text that is no pattern.
* `Sensitive.occurs`, `Sensitive.redact`: whether a text has a match, and the text without them.
-/

namespace LogStyle.Sensitive

/-- What takes the place of a match. -/
def redacted : String := "[redacted]"

/-- The patterns that are always on, before any other. -/
def builtins : List String := [
  "(?i)\\bpassword\\b",
  "(?i)\\bpasswd\\b",
  "(?i)\\btoken\\b",
  "(?i)\\bapi[_-]?key\\b",
  "(?i)\\bsecret\\b",
  "(?i)\\bauthorization\\b",
  "(?i)\\baccess[_-]?key\\b"]

/-- A pattern and the text that it was read from. -/
structure Pattern where
  source : String
  regex : Pattern.Regex
  deriving DecidableEq, Repr

/-- A text that is no regular expression. -/
structure PatternError where
  pattern : String
  deriving DecidableEq, Repr

/-- What is said of such a text, before the reason. -/
def PatternError.message (e : PatternError) : String :=
  "invalid sensitive data pattern " ++ Text.quoted e.pattern ++ ": "

def Pattern.isMatch (p : Pattern) (text : List Char) : Bool := p.regex.isMatch text

/-- A text with the matches of one pattern redacted. -/
def Pattern.redact (p : Pattern) (text : List Char) : List Char :=
  p.regex.replaceAll redacted.toList text

/-- The texts to compile: trimmed, without blank ones and repetitions. -/
def sources (texts : List String) : List String :=
  ((texts.map Text.trimString).filter (!·.isEmpty)).eraseDups

section

variable (regex? : String → Option Pattern.Regex)

def compileOne (source : String) : Except PatternError Pattern :=
  match regex? source with
  | some regex => .ok ⟨source, regex⟩
  | none => .error ⟨source⟩

/-- The patterns of a list of texts, in the order in which they first occur. -/
def compile (texts : List String) : Except PatternError (List Pattern) :=
  (sources texts).mapM (compileOne regex?)

/-- The patterns that are always on, and others after them. -/
def compileWithBuiltins (custom : List String) : Except PatternError (List Pattern) :=
  compile regex? (builtins ++ custom)

end

def occurs (patterns : List Pattern) (text : List Char) : Bool :=
  patterns.any (·.isMatch text)

/-- A text redacted by each pattern in turn. -/
def redact (patterns : List Pattern) (text : List Char) : List Char :=
  patterns.foldl (fun t p => p.redact t) text

end LogStyle.Sensitive
