import LogStyle.Discovery
import LogStyle.Pattern.Regex

/-!
# What other libraries do

The program compiles expressions and globs, goes through directories and reads the syntax of files
with the help of libraries. It can be run with any of them.

* `Tools`: what the program is given.
-/

namespace LogStyle

/-- What the program is given by other libraries. -/
structure Tools where
  /-- The regular expression that a text is, if it is one. -/
  regex? : String → Option Pattern.Regex
  /-- The paths that a text covers, if it is a glob. -/
  glob? : String → Option (String → Bool)
  walk : Walker
  reader : Go.Reader

end LogStyle
