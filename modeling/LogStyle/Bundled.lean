import LogStyle.Exclude
import LogStyle.Go.Parser
import LogStyle.Ignore.Walk
import LogStyle.Pattern.Parser
import LogStyle.Tools

/-!
# The tools that the program comes with

* `Go.Reader.strict`: reads what is Go, and recovers nothing of other texts.
* `Tools.bundled`: the tools of the program.
-/

namespace LogStyle

/-- Reads what is Go. Nothing is recovered of a text with errors. -/
def Go.Reader.strict : Reader := { tree? := Tree.ofSource? }

/-- The tools that the program comes with. -/
def Tools.bundled : Tools where
  regex? := Pattern.ofText?
  glob? text := (Exclude.parse? text).map Exclude.Pattern.excludes
  walk := Ignore.walk
  reader := .strict

end LogStyle
