import LogStyle.Bindings
import LogStyle.Expr

/-!
# What is known about names and types

* `StaticType`: a type as far as it is known.
* `FunctionId`: the declared identity of a function or method.
* `Resolver`: what is known about the nodes of a file.
* `TypeTable`: a resolver given by tables.
-/

namespace LogStyle

/-- The static type of an expression. -/
inductive StaticType where
  | string
  /-- A declared type with the type that it stands for. -/
  | named (package name : String) (underlying : StaticType)
  | pointer (target : StaticType)
  /-- Any other type, described by a word. -/
  | other (description : String)
  deriving DecidableEq, Repr, Inhabited

/-- Texts: `string` and the types declared as such. -/
def StaticType.isStringLike : StaticType → Bool
  | string => true
  | named _ _ underlying => underlying.isStringLike
  | pointer _ => false
  | other _ => false

/-- The declared identity of a function, or of a method if there is a receiver. Functions of the
language itself have no package. -/
structure FunctionId where
  package : Option String
  receiver : Option String
  name : String
  deriving DecidableEq, Repr

namespace FunctionId

def function (package name : String) : FunctionId := ⟨some package, none, name⟩

def method (package receiver name : String) : FunctionId := ⟨some package, some receiver, name⟩

/-- The identity as it is shown. -/
def describe (f : FunctionId) : String :=
  let package := f.package.getD "<builtin>"
  match f.receiver with
  | some receiver => "(" ++ package ++ "." ++ receiver ++ ")." ++ f.name
  | none => package ++ "." ++ f.name

end FunctionId

/-- What a name refers to. -/
inductive Referent where
  | function (f : FunctionId)
  | value (type : StaticType)
  | package (path : String)
  deriving DecidableEq, Repr

/-- What is known about the nodes of a file. -/
structure Resolver where
  /-- What an identifier refers to. -/
  useOf : NodeId → Option Referent
  /-- The member that a selector selects through a value. -/
  selection : NodeId → Option Referent
  typeOf : NodeId → Option StaticType

/-- The knowledge about a file as tables. -/
structure TypeTable where
  uses : Bindings NodeId Referent := .empty
  selections : Bindings NodeId Referent := .empty
  types : Bindings NodeId StaticType := .empty

namespace TypeTable

def recordUse (t : TypeTable) (id : NodeId) (r : Referent) : TypeTable :=
  { t with uses := t.uses.insert id r }

def recordSelection (t : TypeTable) (id : NodeId) (r : Referent) : TypeTable :=
  { t with selections := t.selections.insert id r }

def recordType (t : TypeTable) (id : NodeId) (type : StaticType) : TypeTable :=
  { t with types := t.types.insert id type }

def resolver (t : TypeTable) : Resolver where
  useOf := t.uses.get?
  selection := t.selections.get?
  typeOf := t.types.get?

end TypeTable

end LogStyle
