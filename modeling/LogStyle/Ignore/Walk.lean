import LogStyle.Discovery
import LogStyle.Ignore.Rule

/-!
# Going through a directory

The files below a directory, except those that are hidden or ignored. What stands below a directory
that is left out is left out too. Only the ignore files of the tree itself are looked at.

* `Ignore.verdictFor?`: what the ignore files say of an entry below the root.
* `Ignore.skips`: whether an entry is left out.
* `Ignore.walk`: the files below a root that are not left out.
-/

namespace LogStyle.Ignore

open Discovery (pathBelow)

/-- The kinds of ignore files, those that decide first in front. -/
inductive Source where
  | ignoreFile
  | gitignore
  | gitExclude
  deriving DecidableEq, Repr

/-- The names that lead from a directory to an ignore file for it. -/
def Source.place : Source → Place
  | ignoreFile => [".ignore"]
  | gitignore => [".gitignore"]
  | gitExclude => [".git", "info", "exclude"]

/-- The kinds of ignore files that are looked at. -/
def sources (respectGitignore : Bool) : List Source :=
  if respectGitignore then [.ignoreFile, .gitignore, .gitExclude] else [.ignoreFile]

/-- The rules for a directory. -/
def rulesAt (fs : FileSystem) (directory : Place) (source : Source) : List Rule :=
  match fs.entry? (directory ++ source.place) with
  | some (.file content) => rulesOf content
  | _ => []

/-- An entry below the root of a search. -/
structure Found where
  /-- The root as it is written, and its place. -/
  root : String
  place : Place
  /-- The names that lead to the entry from the root. -/
  names : List String
  isDirectory : Bool

/-- What the ignore files of one kind say of an entry. The nearest directory with an opinion
decides. Up to the root paths are taken as they are written; above it they are absolute. -/
def verdictOf? (fs : FileSystem) (e : Found) (source : Source) : Option Verdict :=
  let below := (Place.above e.names).reverse.findSome? fun directory =>
    verdict? (rulesAt fs (e.place ++ directory) source)
      (relative (pathBelow e.root directory).toList (pathBelow e.root e.names).toList)
      e.isDirectory
  let above := fun (_ : Unit) => (Place.above e.place).reverse.findSome? fun directory =>
    verdict? (rulesAt fs directory source)
      (relative directory.path.toList (Place.path (e.place ++ e.names)).toList)
      e.isDirectory
  match below with
  | some verdict => some verdict
  | none => above ()

/-- What the ignore files say of an entry. -/
def verdictFor? (fs : FileSystem) (respectGitignore : Bool) (e : Found) : Option Verdict :=
  (sources respectGitignore).findSome? (verdictOf? fs e)

/-- Whether an entry has a name that hides it. -/
def isHidden (e : Found) : Bool := e.names.getLast?.any fun name => name.toList.head? = some '.'

/-- Whether an entry is left out: it is ignored, or hidden and not kept. -/
def skips (fs : FileSystem) (respectGitignore : Bool) (e : Found) : Bool :=
  match verdictFor? fs respectGitignore e with
  | some .ignored => true
  | some .kept => false
  | none => isHidden e

/-- Whether neither a file nor a directory on the way to it is left out. -/
def isVisible (fs : FileSystem) (respectGitignore : Bool) (root : String) (place : Place)
    (names : List String) : Bool :=
  let directories := (Place.above names).drop 1
  directories.all (fun d => !skips fs respectGitignore ⟨root, place, d, true⟩)
    && !skips fs respectGitignore ⟨root, place, names, false⟩

/-- The names that lead from a place to each file below it. -/
def namesBelow (fs : FileSystem) (place : Place) : List (List String) :=
  fs.filePlaces.filterMap fun p => (place.isPrefixOf? p).filter (!·.isEmpty)

/-- The files below a root that are not left out. -/
def walk : Walker := fun fs root respectGitignore =>
  match fs.resolve? root with
  | none => []
  | some place =>
    ((namesBelow fs place).filter (isVisible fs respectGitignore root place)).map .ok

end LogStyle.Ignore
