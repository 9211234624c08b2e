import LogStyle.Config.Lookup
import LogStyle.Go.Frontend

/-!
# Why a command fails

* `CommandError`: the causes, with the words for each of them.
* `Logged`: work that may fail and that says what it does.
-/

namespace LogStyle

/-- Why a command cannot do its work. -/
inductive CommandError where
  /-- The configuration cannot be used. -/
  | config (cause : LoadError)
  /-- No rule is left by the rules that were asked for. -/
  | noKnownRule
  /-- A pattern of sensitive words is none. -/
  | engine (cause : Sensitive.PatternError)
  /-- A pattern of excluded paths is none. -/
  | exclude (pattern : String)
  /-- There is nothing to check. -/
  | missing (root : String)
  /-- An entry below the root cannot be looked at. -/
  | entry (reason : String)
  | unreadable (path : String)
  /-- The syntax of a file cannot be read. -/
  | parse (path : String) (cause : Go.FrontendError)
  | unwritable (path : String)
  /-- A file is in the way. -/
  | configExists (path : String)
  deriving DecidableEq, Repr

/-- What is said of a failure. -/
def CommandError.message : CommandError → String
  | config cause => cause.message
  | noKnownRule => "--rules selects no known rule (see \x60logmsglint list-rules\x60)"
  | engine _ => "Failed to build engine"
  | exclude pattern => "Invalid exclude pattern: " ++ pattern
  | missing root => "Path does not exist: " ++ root
  | entry reason => reason
  | unreadable path => "Failed to read " ++ path
  | parse path _ => "Failed to parse " ++ path
  | unwritable path => "Failed to write " ++ path
  | configExists path =>
    "Configuration file already exists at " ++ path ++ ". Use --force to overwrite."

/-- Work that may fail and that says what it does. What was said before a failure stays said. -/
abbrev Logged := ExceptT CommandError (StateM (List LogLine))

namespace Logged

/-- Says a line. -/
def say (level : LogLevel) (text : String) : Logged Unit := modify (· ++ [⟨level, text⟩])

/-- The outcome of work, with what was said. -/
def result (work : Logged α) : Except CommandError α × List LogLine := work.run.run []

end Logged

end LogStyle
