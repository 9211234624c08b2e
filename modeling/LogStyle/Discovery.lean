import LogStyle.Command.Error
import LogStyle.Go.Frontend

/-!
# Finding the files to check

A file that is named is checked whatever it is. Below a directory a library goes through the entries
and leaves out what is hidden or ignored. Of the entries that it gives, the files of the language are
taken, except those that are excluded.

* `Walker`: what goes through the entries below a directory.
* `Discovery.takes`: whether an entry is a file to check.
* `Discovery.files`: the files to check for a root, in the order of their paths.
-/

namespace LogStyle

/-- A file to check: its path, and its path in reports. -/
structure FoundFile where
  path : String
  display : String
  deriving DecidableEq, Repr

/-- What goes through the entries below a root. An entry is given by the names that lead to it from
the root, or there is a reason why it cannot be looked at. -/
abbrev Walker := (fs : FileSystem) → (root : String) → (respectGitignore : Bool) →
  List (Except String (List String))

namespace Discovery

variable (fs : FileSystem) (root : String)

/-- The path of what some names lead to from a root. -/
def pathBelow (root : String) (names : List String) : String := names.foldl Path.join root

/-- Whether an entry below a root is a file to check. -/
def takes (excludes : List (String → Bool)) (names : List String) : Bool :=
  fs.isFile (pathBelow root names) && Go.handles (pathBelow root names)
    && !excludes.any (· (Text.joinStrings '/' names))

/-- The file that some names lead to from a root. -/
def fileBelow (names : List String) : FoundFile :=
  ⟨pathBelow root names, Text.joinStrings '/' names⟩

/-- The files below a directory, in the order of their paths. -/
def filesBelow (walk : Walker) (excludes : List (String → Bool)) (respectGitignore : Bool) :
    Except CommandError (List FoundFile) := do
  let entries ← (walk fs root respectGitignore).mapM (·.mapError CommandError.entry)
  let found := (entries.filter (takes fs root excludes)).map (fileBelow root)
  return found.mergeSort fun f g => (Path.compare f.display g.display).isLE

/-- The files to check for a root. -/
def files (walk : Walker) (excludes : List (String → Bool)) (respectGitignore : Bool) :
    Except CommandError (List FoundFile) :=
  if fs.isFile root then .ok [⟨root, root⟩]
  else if fs.isDirectory root then filesBelow fs root walk excludes respectGitignore
  else .error (.missing root)

end Discovery

end LogStyle
