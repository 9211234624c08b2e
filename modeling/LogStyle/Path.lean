import LogStyle.Text.Split

/-!
# Paths

A path is kept as the text that names it and compared by its components: repeated slashes, a slash
at the end and the name `.` anywhere but in front make no difference.

* `Path.components`: the parts of a path.
* `Path.compare`: the order of paths, component by component.
* `Path.fileName?`, `Path.extension?`: the last name and what follows its last dot.
* `Path.join`: a path seen from a directory.
* `Path.ancestors`: a path and the directories above it, as far as its text tells them.
-/

namespace LogStyle.Path

/-- One part of a path. -/
inductive Component where
  | root
  | here
  | parent
  | name (text : String)
  deriving DecidableEq, Repr

/-- The place of a kind of component in the order of components. -/
def Component.rank : Component → Nat
  | root => 0
  | here => 1
  | parent => 2
  | name _ => 3

/-- Names compare as texts. -/
def Component.compare (a b : Component) : Ordering :=
  match a, b with
  | name s, name t => Ord.compare s t
  | _, _ => Ord.compare a.rank b.rank

/-- The pieces between slashes. -/
def pieces (path : String) : List String := Text.splitString '/' path

def isAbsolute (path : String) : Bool := path.toList.head? = some '/'

/-- The component that a piece stands for, if it stands for one. -/
def component? : String → Option Component
  | "" => none
  | "." => none
  | ".." => some .parent
  | text => some (.name text)

/-- The parts of a path. A `.` counts only at the start of a relative path. -/
def components (path : String) : List Component :=
  let parts := (pieces path).filterMap component?
  if isAbsolute path then .root :: parts
  else if (pieces path).head? = some "." then .here :: parts
  else parts

/-- The lexicographic order on lists of components. -/
def compareComponents : List Component → List Component → Ordering
  | [], [] => .eq
  | [], _ :: _ => .lt
  | _ :: _, [] => .gt
  | a :: as, b :: bs => (a.compare b).then (compareComponents as bs)

def compare (p q : String) : Ordering := compareComponents (components p) (components q)

/-- The last component, if it is a name. -/
def fileName? (path : String) : Option String :=
  match (components path).getLast? with
  | some (.name text) => some text
  | _ => none

/-- What follows the last dot of a name. A dot in front of the name does not count. -/
def extensionOf? (name : String) : Option String :=
  match (Text.splitString '.' name).reverse with
  | [] => none
  | [_] => none
  | last :: front => if front = [""] then none else some last

def extension? (path : String) : Option String := (fileName? path).bind extensionOf?

/-- A path seen from a directory. An absolute path stays what it is. -/
def join (directory path : String) : String :=
  if isAbsolute path then path
  else if directory.isEmpty || directory.toList.getLast? = some '/' then directory ++ path
  else directory ++ "/" ++ path

/-- Whether two texts have the same components. -/
def same (p q : String) : Bool := components p = components q

/-- How a path begins: at the root, at the current directory written out, or with its first name. -/
inductive Start where
  | root
  | here
  | name
  deriving DecidableEq, Repr

/-- The beginning of a path and the pieces that follow it. -/
def cut (path : String) : Start × List String :=
  match pieces path with
  | "" :: (piece :: rest) => (.root, piece :: rest)
  | "." :: rest => (.here, rest)
  | [""] => (.name, [])
  | all => (.name, all)

/-- The path with a beginning and the pieces that follow it. -/
def uncut (start : Start) (body : List String) : String :=
  match start with
  | .root => "/" ++ Text.joinStrings '/' body
  | .here => Text.joinStrings '/' ("." :: body)
  | .name => Text.joinStrings '/' body

/-- A piece that names nothing. -/
def isVoid (piece : String) : Bool := (component? piece).isNone

/-- The pieces of the directories above a path, the nearest first; all in reverse. -/
def above : List String → List (List String)
  | [] => []
  | piece :: rest => if isVoid piece then above rest else rest.dropWhile isVoid :: above rest

/-- A path and the directories above it, the nearest first. Only the text is looked at: above a
relative path the last one is the empty text. -/
def ancestors (path : String) : List String :=
  let (start, body) := cut path
  path :: (above body.reverse).map (fun directory => uncut start directory.reverse)
    ++ if start = .here then [""] else []

/-- The directory of a path, as far as its text tells it. -/
def parent? (path : String) : Option String := (ancestors path)[1]?

end LogStyle.Path
