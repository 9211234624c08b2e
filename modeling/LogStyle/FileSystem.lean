import LogStyle.Bindings
import LogStyle.Path
import LogStyle.Text.Utf8

/-!
# File systems

A file system is a finite map from places to what is found there, seen from a current directory. A
place is the list of names that lead to it from the root, and the root is always a directory. There
are no links, so a directory has one place only. Some places may be locked: writing there fails.

* `FileSystem.resolve?`: the place that a path leads to, if it leads to something.
* `FileSystem.isFile`, `FileSystem.isDirectory`, `FileSystem.exists?`: what a path leads to.
* `FileSystem.canonical?`: the absolute path without detours.
* `FileSystem.readText?`, `FileSystem.write?`: read and write a text by its path.
* `FileSystem.add`, `FileSystem.remove`: set up a tree by places.
-/

namespace LogStyle

/-- What a file holds. Bytes that are not UTF-8 are no text. -/
inductive Content where
  | text (text : String)
  | binary (bytes : List UInt8)
  deriving DecidableEq, Repr

namespace Content

def ofBytes (bytes : List UInt8) : Content :=
  match Text.decode? bytes with
  | some cs => text (String.ofList cs)
  | none => binary bytes

def bytes : Content → List UInt8
  | text s => Text.encode s.toList
  | binary bytes => bytes

def text? : Content → Option String
  | text s => some s
  | binary _ => none

/-- A text for whatever is held, with U+FFFD for what is no text. -/
def shown : Content → String
  | text s => s
  | binary bytes => String.ofList (Text.decodeLossy bytes)

end Content

/-- What is found at a place. -/
inductive Entry where
  | directory
  | file (content : Content)
  deriving DecidableEq, Repr

/-- The names that lead to a place from the root. -/
abbrev Place := List String

/-- The absolute path of a place. -/
def Place.path (place : Place) : String := "/" ++ Text.joinStrings '/' place

/-- The places on the way to a place, from the root on. -/
def Place.above (place : Place) : List Place := (List.range place.length).map (place.take ·)

/-- What is found at each place, and the directory from which relative paths are seen. -/
structure FileSystem where
  entries : Bindings Place Entry := .empty
  current : Place := []
  /-- The places where nothing is written. -/
  locked : List Place := []

namespace FileSystem

/-- What is found at a place. -/
def entry? (fs : FileSystem) (place : Place) : Option Entry :=
  if place = [] then some .directory else fs.entries.get? place

def isDirectoryAt (fs : FileSystem) (place : Place) : Bool := fs.entry? place = some .directory

/-- Follows the pieces of a path. Whatever a further piece is looked up in has to be a directory,
also if the piece is empty or leads nowhere else. -/
def walk (fs : FileSystem) : Place → List String → Option Place
  | place, [] => if (fs.entry? place).isSome then some place else none
  | place, piece :: rest =>
    if fs.isDirectoryAt place then
      match Path.component? piece with
      | none => fs.walk place rest
      | some .parent => fs.walk place.dropLast rest
      | some (.name name) => fs.walk (place ++ [name]) rest
      | some _ => none
    else none

/-- The place that a path leads to, if it leads to something. The empty path leads nowhere. -/
def resolve? (fs : FileSystem) (path : String) : Option Place :=
  if path.isEmpty then none
  else fs.walk (if Path.isAbsolute path then [] else fs.current) (Path.pieces path)

/-- What a path leads to. -/
def find? (fs : FileSystem) (path : String) : Option Entry := (fs.resolve? path).bind fs.entry?

def exists? (fs : FileSystem) (path : String) : Bool := (fs.find? path).isSome

def isFile (fs : FileSystem) (path : String) : Bool :=
  match fs.find? path with
  | some (.file _) => true
  | _ => false

def isDirectory (fs : FileSystem) (path : String) : Bool := fs.find? path = some .directory

/-- The absolute path without detours of what a path leads to. -/
def canonical? (fs : FileSystem) (path : String) : Option String :=
  (fs.resolve? path).map Place.path

/-- The content of the file that a path leads to. -/
def read? (fs : FileSystem) (path : String) : Option Content :=
  match fs.find? path with
  | some (.file content) => some content
  | _ => none

/-- The text of the file that a path leads to. -/
def readText? (fs : FileSystem) (path : String) : Option String :=
  (fs.read? path).bind Content.text?

/-- Sets what is found at a place, whatever is there. -/
def set (fs : FileSystem) (place : Place) (entry : Entry) : FileSystem :=
  { fs with entries := fs.entries.insert place entry }

/-- The place for a file that a path would create: a new name in a directory. -/
def newPlace? (fs : FileSystem) (path : String) : Option Place := do
  let name ← (Path.pieces path).getLast?
  let directory ← fs.walk (if Path.isAbsolute path then [] else fs.current)
    (Path.pieces path).dropLast
  if !fs.isDirectoryAt directory then none
  else match Path.component? name with
    | some (.name name) => some (directory ++ [name])
    | _ => none

/-- The place of the file that a text is written to for a path, if the path leads to a file or can
create one. -/
def placeToWrite? (fs : FileSystem) (path : String) : Option Place :=
  match fs.resolve? path with
  | some place =>
    match fs.entry? place with
    | some (.file _) => some place
    | _ => none
  | none => fs.newPlace? path

/-- Writes a text to the file of a path, which is created if only its last name is missing. -/
def write? (fs : FileSystem) (path text : String) : Option FileSystem := do
  let place ← fs.placeToWrite? path
  if place ∈ fs.locked then none else some (fs.set place (.file (.text text)))

/-- Makes a directory where nothing is found yet. -/
def makeDirectory (fs : FileSystem) (place : Place) : FileSystem :=
  if (fs.entry? place).isSome then fs else fs.set place .directory

/-- Puts something at a place and makes the directories on the way to it. -/
def add (fs : FileSystem) (place : Place) (entry : Entry) : FileSystem :=
  let fs := place.above.foldl makeDirectory fs
  match entry with
  | .directory => fs.makeDirectory place
  | .file _ => fs.set place entry

/-- The file system without what is found at a place. -/
def remove (fs : FileSystem) (place : Place) : FileSystem :=
  { fs with entries := fs.entries.erase place }

/-- The places where a file is found, each once. -/
def filePlaces (fs : FileSystem) : List Place :=
  fs.entries.keys.filter fun place =>
    match fs.entry? place with
    | some (.file _) => true
    | _ => false

end FileSystem

end LogStyle
