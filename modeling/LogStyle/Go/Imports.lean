import LogStyle.Bindings
import LogStyle.Go.Tree
import LogStyle.Literal
import LogStyle.Text.Split

/-!
# Imports

* `defaultAlias`: the name of a package that is imported without one.
* `ImportTable.ofTrees`: the names that the imports of a file bind, with the paths of the packages.
-/

namespace LogStyle.Go

/-- A version such as `v2`. -/
def isMajorVersion (element : String) : Bool :=
  match element.toList with
  | 'v' :: digits => !digits.isEmpty && digits.all Char.isDigit
  | _ => false

/-- A name without the version after its last dot, as in `yaml.v3`. -/
def dropVersion (element : String) : String :=
  match (Text.splitString '.' element).reverse with
  | suffix :: front@(_ :: _) =>
    let name := Text.joinStrings '.' front.reverse
    if isMajorVersion suffix && !name.isEmpty then name else element
  | _ => element

/-- The name of a package that is imported without one: the last element of its path, or the one
before if the last is a version. -/
def defaultAlias (path : String) : String :=
  match (Text.splitString '/' path).reverse with
  | last :: previous :: _ => if isMajorVersion last then previous else dropVersion last
  | [last] => dropVersion last
  | [] => path

/-- The local names of the imported packages, with their paths. -/
abbrev ImportTable := Bindings String String

/-- The binding of one import. A blank or dot import binds no name. -/
def importBinding? (spec : Tree) : Option (String × String) := do
  let path ← (spec.child? .path).bind fun t => Literal.value? t.text
  match spec.child? .name with
  | some name => if name.kind = .packageIdentifier then some (name.text, path) else none
  | none => some (defaultAlias path, path)

mutual

/-- The imports of a declaration, or of a list in one. -/
def importSpecs : Tree → List Tree
  | .node _ _ _ _ children => importSpecsOfAll children

def importSpecsOfAll : List Tree → List Tree
  | [] => []
  | t :: rest =>
    (match t.kind with
      | .importSpec => [t]
      | .importSpecList => importSpecs t
      | _ => []) ++ importSpecsOfAll rest

end

/-- The names bound by the import declarations among some nodes. -/
def ImportTable.ofTrees (top : List Tree) : ImportTable :=
  let specs := (top.filter (·.kind = .importDeclaration)).flatMap importSpecs
  Bindings.ofList (specs.filterMap importBinding?)

end LogStyle.Go
