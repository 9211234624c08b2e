import LogStyle.Command.Arguments
import LogStyle.Command.RuleTable
import LogStyle.Command.Starter

/-!
# Running the program

* `Command.run`: the outcome of a command.
* `Program.run`: what a call of the program prints, and with which status it ends.
-/

namespace LogStyle

/-- What stands around the program: the files, and the directory of the user's own configuration. -/
structure Surroundings where
  files : FileSystem
  globalDirectory : Option String

/-- The outcome of a command. The result tells whether it failed without an error. -/
def Command.run (tools : Tools) (around : Surroundings) (config : Option String) : Command → Outcome Bool
  | check target options =>
    Check.run tools around.files target options
      (.find around.files target config around.globalDirectory)
  | listRules => { output := RuleTable.text, files := around.files, result := .ok false }
  | init force =>
    let outcome := Starter.run around.files force
    { outcome with result := outcome.result.map fun _ => false }

namespace Program

/-- The name and the version of the program. -/
def version : String := "logmsglint 0.1.0"

/-- What a call of the program leaves behind. -/
structure Ending where
  status : Nat
  output : String := ""
  log : List LogLine := []
  error : Option CommandError := none
  files : FileSystem

/-- Runs the program. The status is 2 if the arguments are not understood, 1 if the command failed,
and 0 otherwise. -/
def run (tools : Tools) (around : Surroundings) (args : List String) : Ending :=
  match Arguments.read? args with
  | none => { status := 2, files := around.files }
  | some .version => { status := 0, output := version ++ "\n", files := around.files }
  | some (.command command config _) =>
    let outcome := command.run tools around config
    let (status, error) := match outcome.result with
      | .ok failed => (if failed then 1 else 0, none)
      | .error e => (1, some e)
    { status := status, output := outcome.output, log := outcome.log, error := error
      files := outcome.files }

end Program

end LogStyle
