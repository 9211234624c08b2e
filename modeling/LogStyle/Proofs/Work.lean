import LogStyle.Proofs.Rereading

/-!
# What is done for a node

The work for a node consists of work for nodes below it, of names that are declared and of blocks
that are opened. Here it is written down as data, so that facts about a whole file can be proved by
induction on the work.

* `Task`: one piece of work; `Task.run` does it.
* `Tree.work`: what is done for a node as a statement (`visit_eq`).
* `Tree.plan`: what is done for a node as an expression, and the form of the expression that is made
  of it in the end.
* `Tree.visit_eq`, `Tree.lower_eq`: **what a node does in a role is the work for it.**
-/

namespace LogStyle.Go

open Lower

/-- How a node is taken. -/
inductive Role where
  | statement
  | expression
  deriving DecidableEq

/-- A piece of work. -/
inductive Task where
  | take (role : Role) (t : Tree)
  | declare (bindings : List (String × Option StaticType))
  /-- Names are declared with their values, or with a type that is written down. -/
  | define (names : List String) (declared : Option StaticType) (values : List Tree)
  | block (tasks : List Task)

/-- The expressions that a node leaves behind in a role. -/
def Tree.does (d : Declarations) (role : Role) (t : Tree) : Lower (List Expr) :=
  match role with
  | .statement => (t.meaning d).visit
  | .expression => do return [← (t.meaning d).lower]

namespace Task

mutual

/-- Does a piece of work. -/
def run (d : Declarations) : Task → Lower (List Expr)
  | take role t => t.does d role
  | declare bindings => do
    declareAll (bindings.map (·.1)) (bindings.map (·.2))
    return []
  | define names declared values =>
    Meaning.visitDeclaration names declared (Meaning.lowerEach (values.map (Tree.meaning d)))
  | block tasks => inBlock (runAll d tasks)

/-- Does one piece of work after the other. -/
def runAll (d : Declarations) : List Task → Lower (List Expr)
  | [] => pure []
  | task :: rest => do
    let es ← task.run d
    return es ++ (← runAll d rest)

end

/-- Takes nodes one after the other. -/
def takeAll (role : Role) (ts : List Tree) : List Task := ts.map (take role)

end Task

namespace Tree

/-- The expressions in a list, or a single expression. -/
def listed (t : Tree) : List Tree := if t.kind = .expressionList then t.parts else [t]

/-- The entries of the receiver, the parameters and the results of a function. -/
def entries (t : Tree) : List Tree :=
  [Field.receiver, Field.parameters, Field.result].flatMap fun field =>
    match t.child? field with
    | some list => if list.kind = .parameterList then list.parts else []
    | none => []

/-- The names of an entry with their type. -/
def bindings (d : Declarations) (entry : Tree) : List (String × Option StaticType) :=
  let type := (entry.child? .type).map fun type =>
    if entry.kind = .variadicParameterDeclaration then StaticType.other "variadic"
    else d.typeOf type
  (entry.childTexts .name).map fun name => (name, type)

/-- The body of a function, which sees the parameters. -/
def functionTasks (d : Declarations) (t : Tree) : List Task :=
  [.block (.declare (t.entries.flatMap (bindings d)) :: Task.takeAll .statement (t.child? .body).toList)]

/-- The expressions in a role. -/
def listedIn (t : Tree) (field : Field) : List Tree := ((t.child? field).map listed).getD []

/-- The names in a role. -/
def namesIn (t : Tree) (field : Field) : List String :=
  ((t.child? field).map Meaning.identifiers).getD []

def typeIn (d : Declarations) (t : Tree) : Option StaticType := (t.child? .type).map d.typeOf

/-- What is done for a node as a statement. -/
def work (d : Declarations) (t : Tree) : List Task :=
  match t.kind with
  | .functionDeclaration | .methodDeclaration => t.functionTasks d
  | .block | .ifStatement | .forStatement | .expressionSwitchStatement | .selectStatement
  | .expressionCase | .defaultCase | .typeCase | .communicationCase =>
    [.block (Task.takeAll .statement t.parts)]
  | .typeSwitchStatement =>
    [.block (Task.takeAll .statement (t.child? .initializer).toList
      ++ Task.takeAll .expression (t.child? .value).toList
      ++ .declare ((t.namesIn .alias).map fun name => (name, none))
      :: Task.takeAll .statement
        (t.children.filter fun c => c.kind = .typeCase || c.kind = .defaultCase))]
  | .shortVarDeclaration => [.define (t.namesIn .left) none (t.listedIn .right)]
  | .varSpec | .constSpec => [.define (t.childTexts .name) (t.typeIn d) (t.listedIn .value)]
  | .rangeClause | .receiveStatement =>
    Task.takeAll .expression (t.child? .right).toList
      ++ if t.hasToken ":=" then [.declare ((t.namesIn .left).map fun name => (name, none))]
        else Task.takeAll .expression (t.listedIn .left)
  | .packageClause | .importDeclaration | .typeDeclaration => []
  | kind =>
    if kind.isExpression then [.take .expression t]
    else if kind.isType then []
    else Task.takeAll .statement t.parts

/-- The parts of a node that are lowered if nothing else is known about it. -/
def operands (t : Tree) : List Tree := t.parts.filter (!·.kind.isType)

end Tree

/-- What becomes of a node when the work below it is done. -/
inductive Form where
  | literal
  | name
  | paren
  | binary (operator : String)
  | select (member : Tree)
  | call
  /-- A node with a type that is written down. -/
  | typed (type : Option StaticType)
  | unary (operator : String)
  | other

namespace Tree

def operator (t : Tree) : String := ((t.child? .operator).map text).getD ""

/-- What is done for a node as an expression, and the form of the expression. -/
def plan (d : Declarations) (t : Tree) : Form × List Task :=
  let rest := Task.takeAll .expression t.operands
  match t.kind with
  | .interpretedStringLiteral | .rawStringLiteral => (.literal, [])
  | .identifier => (.name, [])
  | .parenthesizedExpression =>
    match t.parts with
    | [] => (.other, [])
    | inner :: _ => (.paren, Task.takeAll .expression [inner])
  | .binaryExpression =>
    match t.child? .left, t.child? .right with
    | some left, some right => (.binary t.operator, Task.takeAll .expression [left, right])
    | _, _ => (.other, rest)
  | .selectorExpression =>
    match t.child? .operand, t.child? .member with
    | some operand, some member => (.select member, Task.takeAll .expression [operand])
    | _, _ => (.other, rest)
  | .callExpression =>
    match t.child? .function with
    | some function =>
      (.call, Task.takeAll .expression
        (function :: ((t.child? .arguments).map operands).getD []))
    | none => (.other, rest)
  | .typeConversionExpression | .typeAssertionExpression | .compositeLiteral =>
    (.typed (t.typeIn d), rest)
  | .unaryExpression => (.unary t.operator, rest)
  | .funcLiteral => (.other, t.functionTasks d)
  | _ => (.other, rest)

/-- Makes an expression of a form from the expressions below it, and writes the notes on it. -/
def finish (d : Declarations) (t : Tree) (id : NodeId) : Form → List Expr → Lower Expr
  | .literal, _ => do
    recordType id .string
    return .literal id t.span t.text
  | .name, _ => do
    Meaning.resolveIdentifier d id t.text
    return .ident id t.span t.text
  | .paren, [inner] => do
    recordType? id (← typeOf inner)
    return .paren id t.span inner
  | .binary operator, [left, right] => do
    let leftType ← typeOf left
    let rightType ← typeOf right
    let type :=
      if operator = "+" then Meaning.sumType leftType rightType
      else if Meaning.comparisons.contains operator then some (.other "bool")
      else leftType
    recordType? id type
    return .binary id t.span (if operator = "+" then .add else .other operator) left right
  | .select member, [operand] => do
    let state ← get
    let fieldId ← Meaning.selectedName (Meaning.selectedUse? d state operand member.text)
    Meaning.recordSelected id (Meaning.selected? d state operand member.text)
    return .select id t.span operand ⟨fieldId, member.text, member.span⟩
  | .call, callee :: args => do
    let results := Meaning.callResults d (← get) callee
    match results with
    | [single] => recordType id single
    | _ => pure ()
    if !results.isEmpty then recordResults id results
    return .call id t.span callee args
  | .typed type, es => do
    recordType? id type
    return .other id t.span t.kind.name es
  | .unary operator, es => do
    let operand ← match es with
      | [] => pure none
      | first :: _ => typeOf first
    recordType? id (Meaning.unaryType operator operand)
    return .other id t.span t.kind.name es
  | _, es => return .other id t.span t.kind.name es

end Tree

/-! ## The work of statements -/

namespace Task

variable {d : Declarations}

theorem runAll_append (xs ys : List Task) : runAll d (xs ++ ys) = do
    let es ← runAll d xs
    return es ++ (← runAll d ys) := by
  induction xs with
  | nil =>
    rw [List.nil_append, runAll]
    simp
  | cons x xs ih => simp only [List.cons_append, runAll, ih, bind_assoc, pure_bind, List.append_assoc]

theorem runAll_singleton (task : Task) : runAll d [task] = task.run d := by
  simp [runAll]

theorem runAll_takeAll_cons (role : Role) (t : Tree) (ts : List Tree) :
    runAll d (takeAll role (t :: ts)) = do
      let es ← t.does d role
      return es ++ (← runAll d (takeAll role ts)) := by
  rw [takeAll, List.map_cons, runAll, run]
  rfl

theorem runAll_visit (ts : List Tree) :
    runAll d (takeAll .statement ts) = Meaning.visitEach (ts.map (Tree.meaning d)) := by
  induction ts with
  | nil => rfl
  | cons t ts ih =>
    rw [takeAll, List.map_cons, List.map_cons, runAll, Meaning.visitEach, ← takeAll, ih]
    rfl

theorem runAll_lower (ts : List Tree) :
    runAll d (takeAll .expression ts) = Meaning.lowerEach (ts.map (Tree.meaning d)) := by
  induction ts with
  | nil => rfl
  | cons t ts ih =>
    rw [takeAll, List.map_cons, List.map_cons, runAll, Meaning.lowerEach, ← takeAll, ih]
    simp [run, Tree.does]

end Task

namespace Tree

variable {d : Declarations} {t : Tree}

theorem find?_meanings (d : Declarations) (t : Tree) (field : Field) :
    Meaning.find? (t.children.map (meaning d)) field = (t.child? field).map (meaning d) := by
  simp only [Meaning.find?, child?, List.find?_map, Function.comp_def, tree_meaning]

theorem named_children (d : Declarations) (t : Tree) :
    Meaning.named (t.children.map (meaning d)) = t.parts.map (meaning d) :=
  named_meanings d t.children

theorem visitParts_children (d : Declarations) (t : Tree) :
    Meaning.visitParts (t.children.map (meaning d)) = Task.runAll d (Task.takeAll .statement t.parts) := by
  rw [Meaning.visitParts, named_children, Task.runAll_visit]

theorem lowerParts_children (d : Declarations) (t : Tree) :
    Meaning.lowerParts (t.children.map (meaning d)) =
      Task.runAll d (Task.takeAll .expression t.operands) := by
  rw [Meaning.lowerParts, named_children, List.filter_map, Task.runAll_lower, operands]
  simp [Function.comp_def, Meaning.kind]

theorem list_meaning (d : Declarations) (t : Tree) :
    (t.meaning d).list = Task.runAll d (Task.takeAll .expression t.listed) := by
  rw [meaning_eq, Task.runAll_lower, listed]
  simp only [Meaning.ofNode]
  split
  · rw [named_children]
  · rw [List.map_singleton, Meaning.lowerEach, Meaning.lowerEach, lower_meaning]
    simp

theorem declareAll_append (xs ys : List (String × Option StaticType)) :
    declareAll ((xs ++ ys).map (·.1)) ((xs ++ ys).map (·.2)) = (do
      declareAll (xs.map (·.1)) (xs.map (·.2))
      declareAll (ys.map (·.1)) (ys.map (·.2)) : Lower Unit) := by
  induction xs with
  | nil => rfl
  | cons x xs ih =>
    simp only [List.cons_append, List.map_cons, declareAll, List.tail_cons, ih, bind_assoc]
    rfl

theorem declareParameters_eq (entries : List Tree) :
    Meaning.declareParameters d entries =
      declareAll ((entries.flatMap (bindings d)).map (·.1))
        ((entries.flatMap (bindings d)).map (·.2)) := by
  induction entries with
  | nil => rfl
  | cons entry entries ih =>
    rw [Meaning.declareParameters, List.flatMap_cons, declareAll_append, ih, Meaning.declareParameter]
    simp [bindings, Function.comp_def]

theorem parametersOf_children (d : Declarations) (t : Tree) :
    Meaning.parametersOf (t.children.map (meaning d)) = t.entries := by
  unfold Meaning.parametersOf entries
  congr 1
  funext field
  rw [find?_meanings]
  cases t.child? field <;> simp [Meaning.kind]

theorem visitFunction_children (d : Declarations) (t : Tree) :
    Meaning.visitFunction d (t.children.map (meaning d)) = Task.runAll d (t.functionTasks d) := by
  rw [functionTasks, Task.runAll_singleton, Task.run, Task.runAll, Task.run, Meaning.visitFunction,
    parametersOf_children, declareParameters_eq, find?_meanings, Task.runAll_visit]
  congr 1
  cases t.child? .body <;> simp [Meaning.visitEach]

theorem define_children (d : Declarations) (t : Tree) (names : List String)
    (declared : Option StaticType) (field : Field) :
    Meaning.visitDeclaration names declared (Meaning.listIn (t.children.map (meaning d)) field) =
      Task.runAll d [.define names declared (t.listedIn field)] := by
  rw [Task.runAll_singleton, Task.run, Meaning.listIn, find?_meanings, listedIn]
  cases t.child? field with
  | none => rfl
  | some c => simp only [Option.map_some, Option.getD_some, list_meaning, Task.runAll_lower]

theorem leftNames_children (d : Declarations) (t : Tree) (field : Field) :
    Meaning.leftNames (t.children.map (meaning d)) field = t.namesIn field := by
  rw [Meaning.leftNames, find?_meanings, namesIn]
  cases t.child? field <;> simp

theorem typeIn_children (d : Declarations) (t : Tree) :
    Meaning.typeIn d (t.children.map (meaning d)) = t.typeIn d := by
  rw [Meaning.typeIn, find?_meanings, typeIn, Option.map_map]
  simp [Function.comp_def]

/-- Names without a type may be declared with no list of types at all. -/
theorem declareAll_nil (names : List String) :
    declareAll names [] = declareAll ((names.map fun name => (name, (none : Option StaticType))).map (·.1))
      ((names.map fun name => (name, (none : Option StaticType))).map (·.2)) := by
  induction names with
  | nil => rfl
  | cons name names ih =>
    simp only [List.map_cons, declareAll, List.tail_nil, List.tail_cons, ih]
    rfl

theorem run_declare (names : List String) :
    (Task.declare (names.map fun name => (name, none))).run d = do
      declareAll names []
      return [] := by
  rw [Task.run, declareAll_nil]

theorem lowerOne_children (d : Declarations) (t : Tree) (field : Field) :
    Meaning.lowerOne (t.children.map (meaning d)) field =
      Task.runAll d (Task.takeAll .expression (t.child? field).toList) := by
  rw [Meaning.lowerOne, find?_meanings, Task.runAll_lower]
  cases t.child? field <;> simp [Meaning.lowerEach]

theorem visitOne_children (d : Declarations) (t : Tree) (field : Field) :
    Meaning.visitOne (t.children.map (meaning d)) field =
      Task.runAll d (Task.takeAll .statement (t.child? field).toList) := by
  rw [Meaning.visitOne, find?_meanings, Task.runAll_visit]
  cases t.child? field <;> simp [Meaning.visitEach]

theorem visitReceiver_children (d : Declarations) (t : Tree) :
    Meaning.visitReceiver t (t.children.map (meaning d)) =
      Task.runAll d (Task.takeAll .expression (t.child? .right).toList
        ++ if t.hasToken ":=" then [.declare ((t.namesIn .left).map fun name => (name, none))]
          else Task.takeAll .expression (t.listedIn .left)) := by
  rw [Meaning.visitReceiver_eq, lowerOne_children, Task.runAll_append, find?_meanings, namesIn, listedIn]
  congr 1
  funext right
  cases t.child? .left with
  | none =>
    simp only [Option.map_none, Option.getD_none, List.map_nil]
    split <;> simp [Task.runAll, Task.run, Task.takeAll, declareAll]
  | some left =>
    simp only [Option.map_some, Option.getD_some, tree_meaning]
    split
    · simp [Task.runAll_singleton, run_declare]
    · rw [list_meaning]

theorem visitTypeSwitch_children (d : Declarations) (t : Tree) :
    Meaning.visitTypeSwitch (t.children.map (meaning d)) =
      Task.runAll d [.block (Task.takeAll .statement (t.child? .initializer).toList
        ++ Task.takeAll .expression (t.child? .value).toList
        ++ .declare ((t.namesIn .alias).map fun name => (name, none))
        :: Task.takeAll .statement
          (t.children.filter fun c => c.kind = .typeCase || c.kind = .defaultCase))] := by
  have hcases : (t.children.map (meaning d)).filter
      (fun m => m.kind = .typeCase || m.kind = .defaultCase) =
      (t.children.filter fun c => c.kind = .typeCase || c.kind = .defaultCase).map (meaning d) := by
    rw [List.filter_map]
    simp [Function.comp_def, Meaning.kind]
  rw [Meaning.visitTypeSwitch_eq, visitOne_children, lowerOne_children, leftNames_children, hcases,
    Task.runAll_singleton, Task.run, List.append_assoc, Task.runAll_append, Task.runAll_append,
    Task.runAll, run_declare]
  simp [Task.runAll_visit]

/-- **What a node does as a statement is the work for it.** -/
theorem visit_eq (d : Declarations) (t : Tree) : (t.meaning d).visit = Task.runAll d (t.work d) := by
  have hfunction := visitFunction_children d t
  have hparts := visitParts_children d t
  have hblock : inBlock (Meaning.visitParts (t.children.map (meaning d))) =
      Task.runAll d [.block (Task.takeAll .statement t.parts)] := by
    rw [hparts, Task.runAll_singleton, Task.run]
  have hexpr : (do return [← Meaning.lowerNode d t (t.children.map (meaning d))]) =
      Task.runAll d [.take .expression t] := by
    rw [Task.runAll_singleton, Task.run, does, lower_meaning]
  have hnothing : (pure [] : Lower (List Expr)) = Task.runAll d [] := by rw [Task.runAll]
  have hdefine := define_children d t
  have hreceiver := visitReceiver_children d t
  have hswitch := visitTypeSwitch_children d t
  rw [meaning_eq]
  simp only [Meaning.ofNode, Meaning.visitNode, work, leftNames_children, typeIn_children]
  generalize t.kind = kind
  cases kind
  -- every kind of node is visited in one of these ways
  all_goals first
    | exact hparts
    | exact hexpr
    | exact hnothing
    | exact hblock
    | exact hfunction
    | exact hdefine _ _ _
    | exact hreceiver
    | exact hswitch

/-! ## The work of expressions -/

theorem operatorOf_children (d : Declarations) (t : Tree) :
    Meaning.operatorOf (t.children.map (meaning d)) = t.operator := by
  rw [Meaning.operatorOf, find?_meanings, operator, Option.map_map]
  simp [Function.comp_def]

theorem arguments_meaning (d : Declarations) (t : Tree) :
    (t.meaning d).arguments = Task.runAll d (Task.takeAll .expression t.operands) := by
  rw [meaning_eq]
  exact lowerParts_children d t

/-- **A node as an expression gets an identity, then the work below it is done, and in the end the
notes on it are written.** -/
theorem lower_eq (d : Declarations) (t : Tree) : (t.meaning d).lower = (do
    let id ← fresh
    let es ← Task.runAll d (t.plan d).2
    t.finish d id (t.plan d).1 es : Lower Expr) := by
  rw [lower_meaning]
  unfold Meaning.lowerNode
  refine bind_congr fun id => ?_
  dsimp only
  have hrest := lowerParts_children d t
  have hother : Meaning.lowerOther t.kind t.span id (t.children.map (meaning d)) = (do
      let es ← Task.runAll d (Task.takeAll .expression t.operands)
      t.finish d id .other es) := by
    rw [Meaning.lowerOther, hrest]
    rfl
  have htyped : (do
      let e ← Meaning.lowerOther t.kind t.span id (t.children.map (meaning d))
      recordType? id (t.typeIn d)
      return e) = (do
      let es ← Task.runAll d (Task.takeAll .expression t.operands)
      t.finish d id (.typed (t.typeIn d)) es) := by
    rw [Meaning.lowerOther, hrest, bind_assoc]
    rfl
  rw [typeIn_children, operatorOf_children]
  unfold plan
  generalize hkind : t.kind = kind at hother htyped ⊢
  cases kind
  case interpretedStringLiteral => rfl
  case rawStringLiteral => rfl
  case identifier => rfl
  case parenthesizedExpression =>
    simp only [named_children]
    cases hparts : t.parts with
    | nil =>
      rw [operands, hparts] at hother
      exact hother
    | cons inner rest =>
      simp only [Task.runAll_lower, List.map_cons, List.map_nil, Meaning.lowerEach, bind_assoc,
        pure_bind]
      rfl
  case binaryExpression =>
    simp only [find?_meanings]
    cases t.child? .left with
    | none => exact hother
    | some left =>
      cases t.child? .right with
      | none => exact hother
      | some right =>
        simp only [Task.runAll_lower, Option.map_some, List.map_cons, List.map_nil,
          Meaning.lowerEach, bind_assoc, pure_bind, Meaning.lowerBinary]
        rfl
  case selectorExpression =>
    simp only [find?_meanings]
    cases t.child? .operand with
    | none => exact hother
    | some operand =>
      cases t.child? .member with
      | none => exact hother
      | some member =>
        simp only [Task.runAll_lower, Option.map_some, List.map_cons, List.map_nil,
          Meaning.lowerEach, bind_assoc, pure_bind, Meaning.lowerSelector_eq, tree_meaning]
        rfl
  case callExpression =>
    simp only [find?_meanings]
    cases t.child? .function with
    | none => exact hother
    | some function =>
      simp only [Option.map_some, Task.runAll_lower, List.map_cons, Meaning.lowerEach, bind_assoc,
        pure_bind, Meaning.lowerCall]
      refine bind_congr fun callee => ?_
      cases t.child? .arguments with
      | none => rfl
      | some arguments =>
        simp only [Option.map_some, Option.getD_some, arguments_meaning, Task.runAll_lower]
        rfl
  case typeConversionExpression => exact htyped
  case typeAssertionExpression => exact htyped
  case compositeLiteral => exact htyped
  case unaryExpression =>
    have hunary : Meaning.lowerUnary t.span id t.operator (t.children.map (meaning d)) = (do
        let es ← Task.runAll d (Task.takeAll .expression t.operands)
        t.finish d id (.unary t.operator) es) := by
      rw [Meaning.lowerUnary, hrest, ← hkind]
      rfl
    exact hunary
  case funcLiteral =>
    simp only [visitFunction_children, finish, hkind]
  all_goals exact hother

/-- What is done for a node in a role. -/
def tasks (d : Declarations) (t : Tree) : Role → List Task
  | .statement => t.work d
  | .expression => (t.plan d).2

end Tree

end LogStyle.Go
