import LogStyle.Go.Imports
import LogStyle.Go.Known

/-!
# Declarations of a file

The types, functions and methods that a file declares at its top level. Types are collected in the
order in which they are declared, and a type is described as far as it is known when it is
mentioned.

* `Declarations.typeOf`: the type that a syntax node denotes.
* `Declarations.ofTrees`: all declarations of a file.
* `Declarations.member?`: what a selector selects from a value of a type.
-/

namespace LogStyle.Go

/-- A type declared in the file: what it stands for, its fields, and the types it embeds. -/
structure LocalType where
  underlying : Option StaticType := none
  fields : Bindings String StaticType := .empty
  embedded : List StaticType := []

/-- What a file declares, and the context in which it does. -/
structure Declarations where
  package : String
  imports : ImportTable
  types : Bindings String LocalType := .empty
  aliases : Bindings String StaticType := .empty
  functions : Bindings String (List StaticType) := .empty
  /-- Results of methods, by the name of the receiver's type and their own name. -/
  methods : Bindings (String × String) (List StaticType) := .empty

/-- The type behind all pointers. -/
def target : StaticType → StaticType
  | .pointer t => target t
  | t => t

namespace Declarations

/-- A type of the file by its name. -/
def localNamed (d : Declarations) (name : String) : StaticType :=
  let underlying := ((d.types.get? name).bind (·.underlying)).getD (.other "named")
  .named d.package name underlying

/-- The type that a name denotes. -/
def typeNamed (d : Declarations) (name : String) : StaticType :=
  match d.aliases.get? name with
  | some target => target
  | none =>
    if d.types.contains name then d.localNamed name
    else if name = "string" then .string
    else .other name

/-- The type that a name of another package denotes. -/
def typeQualified (d : Declarations) (t : Tree) : StaticType :=
  let package := (t.child? .package).bind fun p => d.imports.get? p.text
  match package, t.child? .name with
  | some package, some name => Known.external package name.text
  | _, _ => .other t.text

mutual

/-- The type that a syntax node denotes. -/
def typeOf (d : Declarations) : Tree → StaticType
  | t@(.node _ kind _ text children) =>
    match kind with
    | .typeIdentifier => d.typeNamed text
    | .pointerType => .pointer (typeOfFirst d children)
    | .qualifiedType => d.typeQualified t
    | .parenthesizedType => typeOfFirst d children
    | .genericType => typeOfGeneric d children
    | _ => .other kind.name

/-- The type that the first of some nodes denotes. -/
def typeOfFirst (d : Declarations) : List Tree → StaticType
  | [] => .other ""
  | t :: rest => if t.isNamed then typeOf d t else typeOfFirst d rest

/-- The type that the node with the role of the type denotes. -/
def typeOfGeneric (d : Declarations) : List Tree → StaticType
  | [] => .other "generic"
  | t :: rest => if t.field = some .type then typeOf d t else typeOfGeneric d rest

end

/-! ## Types -/

/-- The name under which an embedded field is selected. -/
def embeddedName? (t : StaticType) : Option String :=
  match target t with
  | .named _ name _ => some name
  | _ => none

/-- Adds one declaration of fields to a struct type. -/
def addField (d : Declarations) (layout : LocalType) (field : Tree) : LocalType :=
  match field.kind, field.child? .type with
  | .fieldDeclaration, some node =>
    let type := d.typeOf node
    match field.childTexts .name with
    | [] =>
      { layout with
        fields := match embeddedName? type with
          | some name => layout.fields.insert name type
          | none => layout.fields
        embedded := layout.embedded ++ [type] }
    | names =>
      let fields := names.foldl (fun fields name => fields.insert name type) layout.fields
      { layout with fields := fields }
  | _, _ => layout

/-- The fields of a struct type. -/
def structLayout (d : Declarations) (struct : Tree) : LocalType :=
  let lists := struct.parts.filter (·.kind = .fieldDeclarationList)
  (lists.flatMap Tree.parts).foldl d.addField { underlying := some (.other "struct") }

/-- The specifications of types at the top level. -/
def typeSpecs (top : List Tree) : List Tree :=
  ((top.filter (·.kind = .typeDeclaration)).flatMap Tree.parts).filter fun spec =>
    spec.kind = .typeSpec || spec.kind = .typeAlias

/-- Makes the name of a type known, before anything is known about it. -/
def addTypeName (d : Declarations) (spec : Tree) : Declarations :=
  match spec.kind, spec.child? .name with
  | .typeSpec, some name => { d with types := d.types.insert name.text {} }
  | _, _ => d

/-- Adds a type or an alias. -/
def addType (d : Declarations) (spec : Tree) : Declarations :=
  match spec.child? .name, spec.child? .type with
  | some name, some type =>
    if spec.kind = .typeAlias then
      { d with aliases := d.aliases.insert name.text (d.typeOf type) }
    else
      let layout : LocalType :=
        if type.kind = .structType then d.structLayout type
        else { underlying := some (d.typeOf type) }
      { d with types := d.types.insert name.text layout }
  | _, _ => d

/-- Adds the types of a file: first all names, then what they stand for. -/
def addTypes (d : Declarations) (top : List Tree) : Declarations :=
  let specs := typeSpecs top
  specs.foldl addType (specs.foldl addTypeName d)

/-! ## Functions and methods -/

/-- The types of the results that one entry of a list of results stands for. -/
def resultEntry (d : Declarations) (entry : Tree) : List StaticType :=
  match entry.child? .type with
  | some type => List.replicate (max (entry.childTexts .name).length 1) (d.typeOf type)
  | none => []

/-- The types of the results of a function. -/
def resultTypes (d : Declarations) : Option Tree → List StaticType
  | none => []
  | some result =>
    if result.kind = .parameterList then result.parts.flatMap d.resultEntry
    else [d.typeOf result]

mutual

/-- The name of the type behind pointers, parentheses and type arguments. -/
def baseName? : Tree → Option String
  | .node _ kind _ text children =>
    match kind with
    | .pointerType | .parenthesizedType => baseNameOfFirst? children
    | .genericType => baseNameOfGeneric? children
    | .typeIdentifier => some text
    | _ => none

def baseNameOfFirst? : List Tree → Option String
  | [] => none
  | t :: rest => if t.isNamed then baseName? t else baseNameOfFirst? rest

def baseNameOfGeneric? : List Tree → Option String
  | [] => none
  | t :: rest => if t.field = some .type then baseName? t else baseNameOfGeneric? rest

end

/-- The name of the type of a receiver. -/
def receiverName? (receiver : Tree) : Option String := do
  let parameter ← receiver.parts.find? (·.kind = .parameterDeclaration)
  baseName? (← parameter.child? .type)

/-- Adds a function or method. -/
def addSignature (d : Declarations) (node : Tree) : Declarations :=
  match node.child? .name with
  | none => d
  | some name =>
    let results := d.resultTypes (node.child? .result)
    match node.kind with
    | .functionDeclaration => { d with functions := d.functions.insert name.text results }
    | .methodDeclaration =>
      match (node.child? .receiver).bind receiverName? with
      | some receiver => { d with methods := d.methods.insert (receiver, name.text) results }
      | none => d
    | _ => d

/-- The name in the last package clause that has one. -/
def packageName (top : List Tree) : String :=
  let clauses := top.filter (·.kind = .packageClause)
  let names := clauses.filterMap fun clause => clause.parts.head?.map Tree.text
  names.getLast?.getD ""

/-- The declarations among the nodes at the top level of a file. -/
def ofTrees (top : List Tree) : Declarations :=
  let start : Declarations := { package := packageName top, imports := .ofTrees top }
  top.foldl addSignature (start.addTypes top)

/-! ## Members -/

/-- What a selector selects. -/
inductive Member where
  | field (type : StaticType)
  | method (f : FunctionId)
  deriving DecidableEq, Repr

/-- How many embedded fields a selector may go through. -/
def embeddingLimit : Nat := 4

/-- What a selector selects from a value of a type, going through at most a number of embedded
fields. Types of other packages are taken to have every method. A type of the file has its fields,
its declared methods and what its embedded fields have; a name that none of them has counts as a
method of the type. -/
def memberWithin? (d : Declarations) (name : String) : (depth : Nat) → StaticType → Option Member
  | depth, type =>
    match target type with
    | .named package typeName _ =>
      let method := some (.method (.method package typeName name))
      if package ≠ d.package then method
      else
        let layout := d.types.get? typeName
        match layout.bind (·.fields.get? name) with
        | some type => some (.field type)
        | none =>
          if d.methods.contains (typeName, name) then method
          else match depth with
            | 0 => method
            | depth + 1 =>
              let embedded := (layout.map (·.embedded)).getD []
              (embedded.findSome? (memberWithin? d name depth)).or method
    | _ => none

def member? (d : Declarations) (type : StaticType) (name : String) : Option Member :=
  d.memberWithin? name embeddingLimit type

end Declarations

end LogStyle.Go
