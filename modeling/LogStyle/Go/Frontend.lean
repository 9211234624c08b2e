import LogStyle.Go.Lowering
import LogStyle.Path

/-!
# Go source files

The syntax of a file is read by a library. It may be unable to begin or give no tree for a file, and
it may well give a tree for a file with errors: what it recovers is taken as it is.

* `handles`: which files are Go files.
* `Reader`: what reads the syntax of a file.
* `Reader.read`: the syntax tree of a file, or why there is none.
* `CheckedFile.ofTree`: the expressions of a file and what is known about them.
-/

namespace LogStyle.Go

def language : String := "go"

/-- The extensions of Go files. -/
def extensions : List String := ["go"]

/-- Whether a path has the extension of a Go file. -/
def handles (path : String) : Bool := (Path.extension? path).any extensions.contains

/-- What reads the syntax of a text. -/
structure Reader where
  /-- Why it cannot begin at all, if so. -/
  refusal? : Option String := none
  /-- The syntax tree of a text, with what could be recovered of it. -/
  tree? : String → Option Tree

/-- Why a file cannot be read. -/
inductive FrontendError where
  | language (cause : String)
  | parse (path : String)
  deriving DecidableEq, Repr

/-- What is said of a file that cannot be read. -/
def FrontendError.message : FrontendError → String
  | language cause => "failed to load the Go grammar: " ++ cause
  | parse path => "parser produced no syntax tree for " ++ path

/-- The syntax tree of a file. -/
def Reader.read (reader : Reader) (path source : String) : Except FrontendError Tree :=
  match reader.refusal? with
  | some cause => .error (.language cause)
  | none =>
    match reader.tree? source with
    | some tree => .ok tree
    | none => .error (.parse path)

/-- A file as the rules see it, with what is known about its names and types. -/
structure CheckedFile where
  unit : SourceUnit
  types : TypeTable

/-- A file from its syntax tree. -/
def CheckedFile.ofTree (path : String) (tree : Tree) : CheckedFile :=
  let (exprs, types) := lowerFile tree
  ⟨⟨path, exprs⟩, types⟩

end LogStyle.Go
