import LogStyle.Bundled
import LogStyle.Command

/-!
# The command line program

Reads the part of the file system that a call can look at, runs the program on it, and writes back
what has changed.
-/

namespace LogStyle.Outer

/-- The place of an absolute path. -/
def placeOf (path : String) : Place :=
  (Path.components path).filterMap fun
    | .name name => some name
    | _ => none

/-- The files of a directory that matter to what is below it. -/
def guides : List Place :=
  (ConfigSource.projectNames ++ ConfigSource.projectMarks).map ([·])
    ++ [.ignoreFile, .gitignore, .gitExclude].map Ignore.Source.place

/-- Whether the content of a file may be looked at because of its name. -/
def isOfInterest (name : String) : Bool :=
  Go.handles name || guides.any (·.getLast? = some name) || name = ConfigSource.globalName

/-- Whether there is something at a path. -/
def isThere (path : String) : IO Bool := do ((← IO.currentDir) / path).pathExists

/-- Adds what is found at a path: a file, or a directory without what is in it. -/
def addEntry (fs : FileSystem) (path : String) (wanted : Bool) : IO FileSystem := do
  let metadata ← ((← IO.currentDir) / path).metadata
  match metadata.type with
  | .dir => return fs.add (placeOf path) .directory
  | .file =>
    let bytes ← if wanted then IO.FS.readBinFile path else pure .empty
    return fs.add (placeOf path) (.file (.ofBytes bytes.toList))
  | _ => return fs

/-- Adds what is below a directory. Links are not followed. -/
partial def addTree (fs : FileSystem) (path : String) : IO FileSystem := do
  let mut fs := fs
  for entry in ← ((← IO.currentDir) / path).readDir do
    let below := Path.join path entry.fileName
    if ← isThere below then
      if (← IO.FS.realPath below).toString = below then
        fs ← addEntry fs below (isOfInterest entry.fileName)
        if fs.isDirectory below then fs ← addTree fs below
  return fs

/-- Adds what a path leads to, with the files that matter in the directories above it. -/
def addPath (fs : FileSystem) (path : String) : IO FileSystem := do
  if !(← isThere path) then return fs
  let absolute := (← IO.FS.realPath path).toString
  let mut fs := fs
  for directory in Path.ancestors absolute do
    for guide in guides do
      let file := guide.foldl Path.join directory
      if ← isThere file then fs ← addEntry fs file true
  fs ← addEntry fs absolute true
  if fs.isDirectory absolute then addTree fs absolute else return fs

/-- The directory of the user's own configuration. -/
def globalDirectory : IO (Option String) := do
  match ← IO.getEnv "LOGMSGLINT_CONFIG_DIR" with
  | some directory => return some directory
  | none => return (← IO.getEnv "HOME").map (Path.join · ".logmsglint")

/-- What stands around a call of the program, as far as it can look at it. -/
def surroundings (args : List String) : IO Surroundings := do
  let current := (← IO.currentDir).toString
  let global ← globalDirectory
  let mut fs : FileSystem := { current := placeOf current }
  fs ← addPath fs current
  if let some directory := global then fs ← addPath fs directory
  if let some (.command command config _) := Arguments.read? args then
    if let some path := config then fs ← addPath fs path
    if let .check target _ := command then
      fs ← addPath fs target
      if let .ok loaded := (ConfigSource.find fs target config global).load fs then
        fs ← addPath fs (Analysis.root fs target loaded)
  return ⟨fs, global⟩

/-- Writes the files that differ. -/
def writeBack (before after : FileSystem) : IO Unit := do
  for place in after.filePlaces do
    if before.entry? place != after.entry? place then
      if let some text := after.readText? place.path then IO.FS.writeFile place.path text

end LogStyle.Outer

open LogStyle in
def main (args : List String) : IO UInt32 := do
  let around ← Outer.surroundings args
  let ending := Program.run .bundled around args
  Outer.writeBack around.files ending.files
  for line in ending.log do IO.eprintln line.render
  IO.print ending.output
  if let some error := ending.error then IO.eprintln ("Error: " ++ error.message)
  return ending.status.toUInt32
