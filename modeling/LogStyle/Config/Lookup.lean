import LogStyle.Config.Decode
import LogStyle.FileSystem
import LogStyle.Log

/-!
# Where a configuration comes from

A configuration file that is named wins. Otherwise the directories from the checked one upwards are
searched, up to the one that holds the mark of a project. Then the user's own file is looked for.

* `ConfigSource.find`: where the configuration for a target comes from.
* `ConfigSource.search`: the search through a list of directories.
* `ConfigSource.load`: the configuration of a source.
-/

namespace LogStyle

/-- Where a configuration comes from. -/
inductive ConfigSource where
  /-- The file was named. -/
  | explicit (path : String)
  /-- The file stands in the project. -/
  | project (path : String)
  /-- The file is the user's own. -/
  | global (path : String)
  /-- There is no file. -/
  | default
  deriving DecidableEq, Repr

/-- A configuration file that cannot be used, and why. -/
structure LoadError where
  path : String
  cause : ConfigError
  deriving DecidableEq, Repr

def LoadError.message (e : LoadError) : String := "Failed to load config: " ++ e.path

namespace ConfigSource

/-- The names of configuration files in a project, the preferred one first. -/
def projectNames : List String := ["logmsglint.toml", ".logmsglint.toml"]

/-- The name of a user's own configuration file. -/
def globalName : String := "config.toml"

/-- What marks the top directory of a project. -/
def projectMarks : List String := ["go.mod", ".git"]

def path? : ConfigSource → Option String
  | explicit path => some path
  | project path => some path
  | global path => some path
  | default => none

/-- The configuration file in a directory. -/
def fileIn? (fs : FileSystem) (directory : String) : Option String :=
  (projectNames.map (Path.join directory)).find? fs.isFile

/-- Whether a directory is the top of a project. -/
def isProjectTop (fs : FileSystem) (directory : String) : Bool :=
  projectMarks.any fun mark => fs.exists? (Path.join directory mark)

/-- The first configuration file in a list of directories. The search does not go on after the top
of a project. -/
def search (fs : FileSystem) : List String → Option String
  | [] => none
  | directory :: rest =>
    match fileIn? fs directory with
    | some path => some path
    | none => if isProjectTop fs directory then none else search fs rest

/-- The directory from which the search for a target begins: the target itself, or the directory of
a file, without detours if it exists. -/
def start (fs : FileSystem) (target : String) : String :=
  let directory := if fs.isFile target then (Path.parent? target).getD target else target
  (fs.canonical? directory).getD directory

/-- Where the configuration for a target comes from. -/
def find (fs : FileSystem) (target : String) (explicitPath globalDirectory : Option String) :
    ConfigSource :=
  match explicitPath with
  | some path => explicit path
  | none =>
    match search fs (Path.ancestors (start fs target)) with
    | some path => project path
    | none =>
      match (globalDirectory.map (Path.join · globalName)).filter fs.isFile with
      | some path => global path
      | none => default

/-- What is said when the configuration of a source is loaded. -/
def note? : ConfigSource → Option LogLine
  | global path => some ⟨.info, "Using global config: " ++ path⟩
  | _ => none

/-- The configuration of a source. -/
def load (fs : FileSystem) (source : ConfigSource) : Except LoadError Config :=
  match source.path? with
  | none => .ok {}
  | some path =>
    match fs.readText? path with
    | none => .error ⟨path, .unreadable⟩
    | some text => (Config.parse text).mapError (⟨path, ·⟩)

end ConfigSource

end LogStyle
