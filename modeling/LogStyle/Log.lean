/-!
# What a command says of its work

Lines that go beside the output of a command.
-/

namespace LogStyle

/-- How much a line matters. -/
inductive LogLevel where
  | info
  | warn
  deriving DecidableEq, Repr

def LogLevel.name : LogLevel → String
  | info => "INFO"
  | warn => "WARN"

/-- A line of a log. -/
structure LogLine where
  level : LogLevel
  text : String
  deriving DecidableEq, Repr

/-- The line as it is shown. -/
def LogLine.render (line : LogLine) : String := line.level.name ++ " " ++ line.text

end LogStyle
