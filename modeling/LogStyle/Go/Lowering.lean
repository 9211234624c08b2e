import LogStyle.Go.Declarations
import LogStyle.Go.Scopes

/-!
# From syntax to expressions

Each node of a syntax tree has a meaning: what it does as a statement and what it is as an
expression. The meaning of a node is put together from the meanings of the nodes below it, so that
facts about it can be proved by induction on the tree.

What cannot be proved about a name or a type is left out of the table.

* `Meaning`: what a node does as a statement (`visit`) and what it is as an expression (`lower`).
* `Tree.meaning`: the meaning of a syntax tree.
* `lowerFile`: the expressions of a file in document order, and what is known about them.
-/

namespace LogStyle.Go

open Declarations (Member)

/-- What changes on the way through a file. -/
structure State where
  next : NodeId := 0
  table : TypeTable := {}
  /-- The types of the results of calls, also of calls with several results. -/
  results : Bindings NodeId (List StaticType) := .empty
  scopes : Scopes := {}

abbrev Lower := StateM State

namespace Lower

/-- A new identity. -/
def fresh : Lower NodeId := modifyGet fun s => (s.next, { s with next := s.next + 1 })

def recordUse (id : NodeId) (r : Referent) : Lower Unit :=
  modify fun s => { s with table := s.table.recordUse id r }

def recordSelection (id : NodeId) (r : Referent) : Lower Unit :=
  modify fun s => { s with table := s.table.recordSelection id r }

def recordType (id : NodeId) (type : StaticType) : Lower Unit :=
  modify fun s => { s with table := s.table.recordType id type }

/-- Records a type if there is one. -/
def recordType? (id : NodeId) : Option StaticType → Lower Unit
  | some type => recordType id type
  | none => pure ()

def recordResults (id : NodeId) (types : List StaticType) : Lower Unit :=
  modify fun s => { s with results := s.results.insert id types }

def typeOf (e : Expr) : Lower (Option StaticType) := do
  return (← get).table.types.get? e.id

def declare (name : String) (type : Option StaticType) : Lower Unit :=
  modify fun s => { s with scopes := s.scopes.declare name type }

/-- Declares names with the types at the same places; further names get no type. -/
def declareAll : List String → List (Option StaticType) → Lower Unit
  | [], _ => pure ()
  | name :: names, types => do
    declare name (types.head?.join)
    declareAll names types.tail

/-- Runs something in a block of its own. -/
def inBlock (x : Lower α) : Lower α := do
  modify fun s => { s with scopes := s.scopes.push }
  let a ← x
  modify fun s => { s with scopes := s.scopes.pop }
  return a

end Lower

/-- What a syntax node means in the places where it may stand. -/
structure Meaning where
  tree : Tree
  /-- As a statement, which leaves expressions behind. -/
  visit : Lower (List Expr)
  /-- As an expression. -/
  lower : Lower Expr
  /-- As a list of expressions, which a single expression may stand for. -/
  list : Lower (List Expr)
  /-- As the arguments of a call. -/
  arguments : Lower (List Expr)

namespace Meaning

open Lower

def kind (m : Meaning) : Kind := m.tree.kind

/-- The node with a role among some nodes. -/
def find? (ms : List Meaning) (field : Field) : Option Meaning :=
  ms.find? (·.tree.field = some field)

/-- The nodes that are more than punctuation. -/
def named (ms : List Meaning) : List Meaning := ms.filter (·.tree.isNamed)

/-! ## Names and types -/

/-- Records what a name refers to: a local name hides an import, and an import a function. -/
def resolveIdentifier (d : Declarations) (id : NodeId) (name : String) : Lower Unit := do
  match (← get).scopes.lookup name with
  | some (some type) =>
    recordUse id (.value type)
    recordType id type
  | some none => pure ()
  | none =>
    match d.imports.get? name with
    | some path => recordUse id (.package path)
    | none =>
      if d.functions.contains name then recordUse id (.function (.function d.package name))

/-- The types of the results of calling an expression, none if they are not known. -/
def callResults (d : Declarations) (s : State) (callee : Expr) : List StaticType :=
  match callee.stripParens with
  | .ident _ _ name =>
    if (s.scopes.lookup name).isSome then []
    else match d.functions.get? name with
      | some results => results
      | none =>
        match d.aliases.get? name with
        | some type => [type]
        | none =>
          if d.types.contains name then [d.localNamed name]
          else if name = "string" then [.string]
          else []
  | .select id _ _ field =>
    match s.table.uses.get? field.id with
    | some (.function f) =>
      (f.package.bind fun package => Known.functionResults? package f.name).getD []
    | _ =>
      match s.table.selections.get? id with
      | some (.function ⟨some package, some receiver, name⟩) =>
        if package = d.package then (d.methods.get? (receiver, name)).getD []
        else (Known.methodResults? package receiver name).getD []
      | _ => []
  | _ => []

/-- The types of the values that are assigned to a number of names. One call on the right of
several names spreads its results over them. -/
def valueTypes (s : State) (values : List Expr) (names : Nat) : List (Option StaticType) :=
  match values with
  | [single] =>
    if names > 1 then
      let results := (s.results.get? single.stripParens.id).getD []
      (List.range names).map fun i => results[i]?
    else [s.table.types.get? single.id]
  | _ => values.map fun value => s.table.types.get? value.id

/-- The names in a list of expressions, or a single name. -/
def identifiers (t : Tree) : List String :=
  let nodes := if t.kind = .expressionList then t.parts else [t]
  (nodes.filter (·.kind = .identifier)).map Tree.text

/-! ## Expressions -/

/-- Lowers nodes one after the other. -/
def lowerEach : List Meaning → Lower (List Expr)
  | [] => pure []
  | m :: rest => do
    let e ← m.lower
    return e :: (← lowerEach rest)

/-- Lowers the parts of a node that are not types. -/
def lowerParts (ms : List Meaning) : Lower (List Expr) :=
  lowerEach ((named ms).filter (!·.kind.isType))

/-- A node whose parts are kept without being understood. -/
def lowerOther (kind : Kind) (span : Span) (id : NodeId) (ms : List Meaning) : Lower Expr := do
  return .other id span kind.name (← lowerParts ms)

/-- The operators that give a truth value. -/
def comparisons : List String := ["==", "!=", "<", "<=", ">", ">=", "&&", "||"]

/-- The type of the sum of two expressions: a text if one of them is. -/
def sumType (left right : Option StaticType) : Option StaticType :=
  if left.any StaticType.isStringLike then left
  else if right.any StaticType.isStringLike then right
  else left

def lowerBinary (span : Span) (id : NodeId) (operator : String) (left right : Meaning) :
    Lower Expr := do
  let left ← left.lower
  let right ← right.lower
  let leftType ← typeOf left
  let rightType ← typeOf right
  let type :=
    if operator = "+" then sumType leftType rightType
    else if comparisons.contains operator then some (.other "bool")
    else leftType
  recordType? id type
  return .binary id span (if operator = "+" then .add else .other operator) left right

/-- The type of an expression with a unary operator: only pointers are followed. -/
def unaryType (operator : String) (operand : Option StaticType) : Option StaticType :=
  match operator, operand with
  | "&", some type => some (.pointer type)
  | "*", some (.pointer type) => some type
  | _, _ => none

def lowerUnary (span : Span) (id : NodeId) (operator : String) (ms : List Meaning) :
    Lower Expr := do
  let children ← lowerParts ms
  let operand ← match children with
    | [] => pure none
    | first :: _ => typeOf first
  recordType? id (unaryType operator operand)
  return .other id span Kind.unaryExpression.name children

/-- The package that a name refers to. -/
def packageOf? (table : TypeTable) : Expr → Option String
  | .ident id .. =>
    match table.uses.get? id with
    | some (.package path) => some path
    | _ => none
  | _ => none

def lowerSelector (d : Declarations) (span : Span) (id : NodeId) (operand : Meaning)
    (member : Tree) : Lower Expr := do
  let operand ← operand.lower
  let fieldId ← fresh
  let field : FieldName := ⟨fieldId, member.text, member.span⟩
  match packageOf? (← get).table operand with
  | some package => recordUse fieldId (.function (.function package field.name))
  | none =>
    match ← typeOf operand with
    | none => pure ()
    | some type =>
      match d.member? type field.name with
      | some (Member.field fieldType) =>
        recordUse fieldId (.value fieldType)
        recordType id fieldType
      | some (Member.method f) => recordSelection id (.function f)
      | none => pure ()
  return .select id span operand field

def lowerCall (d : Declarations) (span : Span) (id : NodeId) (function : Meaning)
    (arguments : Option Meaning) : Lower Expr := do
  let callee ← function.lower
  let args ← match arguments with
    | some m => m.arguments
    | none => pure []
  let results := callResults d (← get) callee
  match results with
  | [single] => recordType id single
  | _ => pure ()
  if !results.isEmpty then recordResults id results
  return .call id span callee args

/-! ## Statements -/

/-- Visits nodes one after the other. -/
def visitEach : List Meaning → Lower (List Expr)
  | [] => pure []
  | m :: rest => do
    let es ← m.visit
    return es ++ (← visitEach rest)

def visitParts (ms : List Meaning) : Lower (List Expr) := visitEach (named ms)

/-- Declares the names of one entry of a list of parameters. -/
def declareParameter (d : Declarations) (parameter : Tree) : Lower Unit :=
  let type := (parameter.child? .type).map fun type =>
    if parameter.kind = .variadicParameterDeclaration then StaticType.other "variadic"
    else d.typeOf type
  let names := parameter.childTexts .name
  declareAll names (names.map fun _ => type)

/-- Declares the names of a list of parameters. -/
def declareParameters (d : Declarations) : List Tree → Lower Unit
  | [] => pure ()
  | parameter :: rest => do
    declareParameter d parameter
    declareParameters d rest

/-- The parameters of a function: receiver, parameters and results with names. -/
def parametersOf (ms : List Meaning) : List Tree :=
  [Field.receiver, Field.parameters, Field.result].flatMap fun field =>
    match find? ms field with
    | some m => if m.kind = .parameterList then m.tree.parts else []
    | none => []

/-- A function, method or function literal: its body sees its parameters. -/
def visitFunction (d : Declarations) (ms : List Meaning) : Lower (List Expr) :=
  inBlock do
    declareParameters d (parametersOf ms)
    match find? ms .body with
    | some body => body.visit
    | none => return []

/-- The expressions in a role. -/
def listIn (ms : List Meaning) (field : Field) : Lower (List Expr) :=
  match find? ms field with
  | some m => m.list
  | none => return []

/-- Names that are declared together with their values. A declared type goes before the types of
the values. -/
def visitDeclaration (names : List String) (declared : Option StaticType)
    (values : Lower (List Expr)) : Lower (List Expr) := do
  let values ← values
  let inferred := valueTypes (← get) values names.length
  let types := (List.range names.length).map fun i => declared.or (inferred[i]?).join
  declareAll names types
  return values

/-- The names that the left side of a short declaration declares. -/
def leftNames (ms : List Meaning) (field : Field) : List String :=
  match find? ms field with
  | some m => identifiers m.tree
  | none => []

/-- A range clause or a receive, whose left side is declared by `:=` and assigned to by `=`. -/
def visitReceiver (t : Tree) (ms : List Meaning) : Lower (List Expr) := do
  let right ← match find? ms .right with
    | some m => do pure [← m.lower]
    | none => pure []
  match find? ms .left with
  | none => return right
  | some left =>
    if t.hasToken ":=" then
      declareAll (identifiers left.tree) []
      return right
    else return right ++ (← left.list)

/-- A type switch. The names of its guard are known in its cases, but not their types. -/
def visitTypeSwitch (ms : List Meaning) : Lower (List Expr) :=
  inBlock do
    let init ← match find? ms .initializer with
      | some m => m.visit
      | none => pure []
    let value ← match find? ms .value with
      | some m => do pure [← m.lower]
      | none => pure []
    declareAll (leftNames ms .alias) []
    let cases ← visitEach (ms.filter fun m => m.kind = .typeCase || m.kind = .defaultCase)
    return init ++ value ++ cases

/-! ## Meanings -/

/-- The type named in a node, if there is one. -/
def typeIn (d : Declarations) (ms : List Meaning) : Option StaticType :=
  (find? ms .type).map fun m => d.typeOf m.tree

/-- The operator of an expression. -/
def operatorOf (ms : List Meaning) : String := ((find? ms .operator).map (·.tree.text)).getD ""

/-- A node as an expression, given the meanings of the nodes below it. -/
def lowerNode (d : Declarations) (t : Tree) (ms : List Meaning) : Lower Expr := do
  let id ← fresh
  let other := lowerOther t.kind t.span id ms
  match t.kind with
  | .interpretedStringLiteral | .rawStringLiteral =>
    recordType id .string
    return .literal id t.span t.text
  | .identifier =>
    resolveIdentifier d id t.text
    return .ident id t.span t.text
  | .parenthesizedExpression =>
    match named ms with
    | [] => other
    | m :: _ =>
      let inner ← m.lower
      recordType? id (← typeOf inner)
      return .paren id t.span inner
  | .binaryExpression =>
    match find? ms .left, find? ms .right with
    | some left, some right => lowerBinary t.span id (operatorOf ms) left right
    | _, _ => other
  | .selectorExpression =>
    match find? ms .operand, find? ms .member with
    | some operand, some member => lowerSelector d t.span id operand member.tree
    | _, _ => other
  | .callExpression =>
    match find? ms .function with
    | some function => lowerCall d t.span id function (find? ms .arguments)
    | none => other
  | .typeConversionExpression | .typeAssertionExpression | .compositeLiteral =>
    let e ← other
    recordType? id (typeIn d ms)
    return e
  | .unaryExpression => lowerUnary t.span id (operatorOf ms) ms
  | .funcLiteral => return .other id t.span t.kind.name (← visitFunction d ms)
  | _ => other

/-- A node as a statement, given what it is as an expression and the meanings of the nodes below
it. -/
def visitNode (d : Declarations) (t : Tree) (lower : Lower Expr) (ms : List Meaning) :
    Lower (List Expr) :=
  match t.kind with
  | .functionDeclaration | .methodDeclaration => visitFunction d ms
  | .block | .ifStatement | .forStatement | .expressionSwitchStatement | .selectStatement
  | .expressionCase | .defaultCase | .typeCase | .communicationCase => inBlock (visitParts ms)
  | .typeSwitchStatement => visitTypeSwitch ms
  | .shortVarDeclaration => visitDeclaration (leftNames ms .left) none (listIn ms .right)
  | .varSpec | .constSpec =>
    visitDeclaration (t.childTexts .name) (typeIn d ms) (listIn ms .value)
  | .rangeClause | .receiveStatement => visitReceiver t ms
  | .packageClause | .importDeclaration | .typeDeclaration => return []
  | kind =>
    if kind.isExpression then do return [← lower]
    else if kind.isType then return []
    else visitParts ms

/-- The meaning of a node, given the meanings of the nodes below it. -/
def ofNode (d : Declarations) (t : Tree) (ms : List Meaning) : Meaning :=
  let lower := lowerNode d t ms
  { tree := t
    lower := lower
    visit := visitNode d t lower ms
    list := if t.kind = .expressionList then lowerEach (named ms) else do return [← lower]
    arguments := lowerParts ms }

end Meaning

mutual

/-- The meaning of a syntax tree. -/
def Tree.meaning (d : Declarations) : Tree → Meaning
  | .node field kind span text children =>
    .ofNode d (.node field kind span text children) (Tree.meanings d children)

def Tree.meanings (d : Declarations) : List Tree → List Meaning
  | [] => []
  | t :: rest => t.meaning d :: Tree.meanings d rest

end

/-- Declarations of variables and constants. At the top level they are visited before all else, so
that functions see them. -/
def isVariableDeclaration (t : Tree) : Bool :=
  t.kind = .varDeclaration || t.kind = .constDeclaration

/-- The expressions of a file in document order, and what is known about them. -/
def lowerFile (file : Tree) : List Expr × TypeTable :=
  let top := file.parts
  let d := Declarations.ofTrees top
  let ordered := top.filter isVariableDeclaration ++ top.filter (!isVariableDeclaration ·)
  let (exprs, state) := (Meaning.visitEach (Tree.meanings d ordered)).run {}
  (exprs.mergeSort fun a b => a.span.start.offset ≤ b.span.start.offset, state.table)

end LogStyle.Go
