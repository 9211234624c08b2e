import LogStyle.Command.Error
import LogStyle.Engine
import LogStyle.Tools

/-!
# Analyzing files

* `Analysis.root`: where the files to check are looked for.
* `Analysis.readAll`: the texts of the files and their syntax.
* `Analysis.run`: the files of a target and their violations.
-/

namespace LogStyle

/-- A file and its text. -/
structure SourceFile extends FoundFile where
  text : String
  deriving DecidableEq, Repr

/-- A file and its syntax tree. -/
structure ParsedFile extends SourceFile where
  tree : Go.Tree

/-- A file as the rules see it. -/
def ParsedFile.checked (file : ParsedFile) : Go.CheckedFile := .ofTree file.display file.tree

/-- What an analysis finds. -/
structure Analysis where
  result : LintResult
  files : List SourceFile

namespace Analysis

/-- The texts of the checked files, by their paths in the report. -/
def sources (analysis : Analysis) : List (String × String) :=
  analysis.files.map fun file => (file.display, file.text)

/-- Where the files to check are looked for: at a file itself, and otherwise at the configured root
as seen from the target. -/
def root (fs : FileSystem) (target : String) (config : Config) : String :=
  if fs.isFile target then target else Path.join target config.analyzer.root

/-- The paths that each text of a list covers, or the first text that is no glob. -/
def excludes (glob? : String → Option (String → Bool)) (texts : List String) :
    Except CommandError (List (String → Bool)) :=
  texts.mapM fun text =>
    match glob? text with
    | some covers => .ok covers
    | none => .error (.exclude text)

/-- Reads a file. -/
def readFile (reader : Go.Reader) (fs : FileSystem) (file : FoundFile) :
    Except CommandError ParsedFile := do
  let some text := fs.readText? file.path | throw (.unreadable file.path)
  let tree ← (reader.read file.display text).mapError (.parse file.path)
  return { file with text := text, tree := tree }

/-- Reads files one after the other, up to the first one that cannot be read. -/
def readAll (reader : Go.Reader) (fs : FileSystem) (files : List FoundFile) :
    Except CommandError (List ParsedFile) :=
  files.mapM (readFile reader fs)

/-- Checks files with an engine. -/
def ofFiles (engine : Engine Rule) (files : List ParsedFile) : Analysis where
  result := engine.checkAll (files.map fun file =>
    (file.checked.unit, file.checked.types.resolver))
  files := files.map (·.toSourceFile)

/-- The files of a target and their violations. The file system is only read. -/
def run (tools : Tools) (fs : FileSystem) (target : String) (config : Config)
    (extraExcludes : List String) : Logged Analysis := do
  config.unknownRules.forM fun name => Logged.say .warn ("Unknown rule in configuration: " ++ name)
  let engine ← (Engine.ofConfig tools.regex? config).mapError CommandError.engine
  let root := root fs target config
  let excludes ← excludes tools.glob? (config.analyzer.exclude ++ extraExcludes)
  let found ← Discovery.files fs root tools.walk excludes config.analyzer.respectGitignore
  Logged.say .info ("Analyzing " ++ toString found.length ++ " " ++ Go.language
    ++ " file(s) under " ++ root ++ " with " ++ toString engine.rules.length ++ " rules")
  let files ← readAll tools.reader fs found
  return ofFiles engine files

end Analysis

end LogStyle
