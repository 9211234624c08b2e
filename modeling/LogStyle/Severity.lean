import LogStyle.Text.Ascii

/-!
# Severities
-/

namespace LogStyle

/-- How grave a violation is, in increasing order. -/
inductive Severity where
  | info
  | warning
  | error
  deriving DecidableEq, Repr, Inhabited

namespace Severity

def name : Severity → String
  | info => "info"
  | warning => "warning"
  | error => "error"

/-- The place in the order of severities. -/
def rank : Severity → Nat
  | info => 0
  | warning => 1
  | error => 2

/-- Whether a severity is at least as grave as a threshold. -/
def reaches (s threshold : Severity) : Bool := threshold.rank ≤ s.rank

/-- The severity with the given name, as it is written in a configuration file. -/
def ofName? : String → Option Severity
  | "info" => some info
  | "warning" => some warning
  | "error" => some error
  | _ => none

/-- Reads a severity in any case; `warn` is short for `warning`. -/
def parse? (text : String) : Option Severity :=
  match Text.lowercase text with
  | "warn" => some warning
  | name => ofName? name

/-- What is said of a text that is no severity. -/
def unknownMessage (text : String) : String := "unknown severity '" ++ Text.lowercase text ++ "'"

end Severity

end LogStyle
