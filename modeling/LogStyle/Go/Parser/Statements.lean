import LogStyle.Go.Parser.Expressions

/-!
# Declarations and statements
-/

namespace LogStyle.Go.Parser

open P

/-! ## Declarations -/

/-- One specification, or several between parentheses. -/
def specs (spec : P Tree) : P (Bool × List Tree) := do
  if ← skip "(" then
    let items ← terminated (isSymbol ")") spec
    let _ ← expect ")"
    return (true, items)
  else return (false, [← spec])

/-- Names with commas between them, the commas included. -/
def namesWithCommas : P (List Tree) := do
  let first ← name
  let rest ← many do
    if ← isNextIn .statement "," then
      let comma ← take
      let next ← name
      return some [(mark_ comma).as .name, (leaf .identifier next).as .name]
    else return none
  return (leaf .identifier first).as .name :: rest.flatten

/-- The specification of constants. The commas count as names, and a type is there only if values
are. -/
def constSpec (rec : Rec) : P Tree := do
  let start ← mark
  let names ← namesWithCommas
  let values := do
    let _ ← expect "="
    return (← expressionList rec .statement).as .value
  let typed := do
    let type ← rec (.type .statement)
    return [type.as .type, ← values]
  let rest ← match ← next? .statement with
    | none => pure []
    | some t =>
      if isSymbol "=" t then pure [← values]
      else if startsType t then orElse typed (pure [])
      else pure []
  node .constSpec start (names ++ rest)

def constDeclaration (rec : Rec) : P Tree := do
  let start ← mark
  let _ ← expect "const"
  let (_, items) ← specs (constSpec rec)
  node .constDeclaration start items

def varSpec (rec : Rec) : P Tree := do
  let start ← mark
  let names ← commaList .statement name
  let names := names.map fun t => (leaf .identifier t).as .name
  let type ← if ← isNext "=" then pure [] else do
    let type ← rec (.type .statement)
    pure [type.as .type]
  let values ← if ← isNextIn .statement "=" then do
      let _ ← take
      let list ← expressionList rec .statement
      pure [list.as .value]
    else pure []
  node .varSpec start (names ++ type ++ values)

def varDeclaration (rec : Rec) : P Tree := do
  let start ← mark
  let _ ← expect "var"
  let listStart ← mark
  let (grouped, items) ← specs (varSpec rec)
  let items ← if grouped then do
      let list ← node .varSpecList listStart items
      pure [list]
    else pure items
  node .varDeclaration start items

/-- The parameters of a type or function, if there are any: each has a name and a constraint. -/
def typeParameters (rec : Rec) : P Tree := do
  let start ← mark
  let constraint := do
    let first ← rec (.type .inside)
    let _ ← many do
      if ← skip "|" then return some (← rec (.type .inside)) else return none
    return first
  let parameter := orElse (do let _ ← name; constraint) (leaf .identifier <$> name)
  let parameters ← bracketed "[" "]" parameter
  -- the last name needs a constraint, or these are no parameters
  if parameters.getLast?.any (·.kind ≠ .identifier) then node .typeParameterList start []
  else failure

def typeSpec (rec : Rec) : P Tree := do
  let start ← mark
  let n ← name
  let finish := fun (parameters : List Tree) => do
    let isAlias ← skip "="
    let type ← rec (.type .statement)
    node (if isAlias then .typeAlias else .typeSpec) start
      ((leaf .typeIdentifier n).as .name :: parameters ++ [type.as .type])
  orElse (finish []) (do finish [← typeParameters rec])

def typeDeclaration (rec : Rec) : P Tree := do
  let start ← mark
  let _ ← expect "type"
  let (_, items) ← specs (typeSpec rec)
  node .typeDeclaration start items

def packageClause : P Tree := do
  let start ← mark
  let _ ← expect "package"
  let n ← name
  node .packageClause start [leaf .packageIdentifier n]

def importSpec : P Tree := do
  let start ← mark
  let path := do
    let t ← take
    match t.kind with
    | .quoted => return (leaf .interpretedStringLiteral t).as .path
    | .raw => return (leaf .rawStringLiteral t).as .path
    | _ => failure
  let label := do
    if ← isNext "." then return leaf .dot (← take)
    else
      let t ← word
      return leaf (if t.text = "_" then .blankIdentifier else .packageIdentifier) t
  let named := do
    let n ← label
    return [n.as .name, ← path]
  let parts ← orElse (do return [← path]) named
  node .importSpec start parts

def importDeclaration : P Tree := do
  let start ← mark
  let _ ← expect "import"
  let listStart ← mark
  let (grouped, items) ← specs importSpec
  let items ← if grouped then do
      let list ← node .importSpecList listStart items
      pure [list]
    else pure items
  node .importDeclaration start items

/-- The part of a function or method after its name. -/
def functionRest (rec : Rec) : P (List Tree) := do
  let parameters ← parameterList rec
  let results ← results rec .statement
  let body ← if ← isNextIn .statement "\x7b" then do
      let body ← rec .block
      pure [body.as .body]
    else pure []
  return parameters.as .parameters :: results ++ body

/-- Type parameters, if there are any. -/
def typeParameters? (rec : Rec) : P (List Tree) := do
  if ← isNext "[" then return [← typeParameters rec] else return []

def functionDeclaration (rec : Rec) : P Tree := do
  let start ← mark
  let _ ← expect "func"
  let n ← name
  let parameters ← typeParameters? rec
  let rest ← functionRest rec
  node .functionDeclaration start ((leaf .identifier n).as .name :: parameters ++ rest)

def methodDeclaration (rec : Rec) : P Tree := do
  let start ← mark
  let _ ← expect "func"
  let receiver ← parameterList rec
  let n ← name
  let parameters ← typeParameters? rec
  let rest ← functionRest rec
  node .methodDeclaration start
    (receiver.as .receiver :: (leaf .fieldIdentifier n).as .name :: parameters ++ rest)

/-! ## Statements -/

def assignmentOperators : List String :=
  ["=", "+=", "-=", "*=", "/=", "%=", "&=", "|=", "^=", "<<=", ">>=", "&^="]

/-- The one expression of a list. -/
def single (list : Tree) : P Tree :=
  match list.children with
  | [e] => return e
  | _ => failure

/-- An expression, an assignment, a short declaration, a step or a send. -/
def simpleStatement (rec : Rec) (mode : Mode) : P Tree := do
  let start ← mark
  let left ← expressionList rec mode
  let t ← next? mode
  let op := (t.filter (·.kind = .symbol)).map (·.text)
  match op with
  | some ":=" =>
    let op ← take
    let right ← expressionList rec mode
    node .shortVarDeclaration start [left.as .left, mark_ op, right.as .right]
  | some "++" =>
    let e ← single left
    let _ ← take
    node .incStatement start [e]
  | some "--" =>
    let e ← single left
    let _ ← take
    node .decStatement start [e]
  | some "<-" =>
    let e ← single left
    let _ ← take
    let value ← rec (.expression mode 1)
    node .sendStatement start [e, value.as .value]
  | some op =>
    if assignmentOperators.contains op then
      let op ← take
      let right ← expressionList rec mode
      node .assignmentStatement start [left.as .left, (mark_ op).as .operator, right.as .right]
    else
      let e ← single left
      node .expressionStatement start [e]
  | none =>
    let e ← single left
    node .expressionStatement start [e]

/-- The statements up to a closing brace or the next case. -/
def statements (rec : Rec) : P (List Tree) := do
  let start ← mark
  let isEnd := fun (t : Token) =>
    isSymbol "\x7d" t || (t.kind = .word && (t.text = "case" || t.text = "default"))
  let items ← terminated isEnd (rec .statement)
  if items.isEmpty then return []
  else return [← node .statementList start items]

def block (rec : Rec) : P Tree := do
  let start ← mark
  let _ ← expect "\x7b"
  let body ← statements rec
  let _ ← expect "\x7d"
  node .block start body

/-- The end of a statement, without taking it. -/
def endsStatement : P Unit := do
  match ← next? .statement with
  | none => return
  | some t =>
    if isSymbol ";" t || isSymbol "\x7d" t || isSymbol ")" t
        || (t.kind = .word && (t.text = "case" || t.text = "default" || t.text = "else")) then
      return
    else failure

/-- A statement with a header. A brace at the end of the header starts the body, unless the
statement can be read only if it starts the body of a literal. -/
def headed (p : Mode → P Tree) : P Tree :=
  orElse (do let t ← p .header; endsStatement; return t) (p .inside)

/-- Something in a header up to a semicolon. -/
def upToSemicolon (p : Mode → P Tree) : P Tree :=
  let ended := fun (mode : Mode) => do
    let t ← p mode
    let _ ← expect ";"
    return t
  orElse (ended .header) (ended .inside)

/-- The initializer of a header. It may be empty. -/
def initializer (rec : Rec) : P (List Tree) := do
  if ← skip ";" then return []
  else
    let init ← upToSemicolon fun mode => rec (.simple mode)
    return [init.as .initializer]

/-- Tries what follows a keyword without an initializer, and then with one. -/
def afterInitializer (rec : Rec) (p : List Tree → P Tree) : P Tree :=
  orElse (p []) (do p (← initializer rec))

def ifStatement (rec : Rec) (mode : Mode) : P Tree := do
  let start ← mark
  let _ ← expect "if"
  afterInitializer rec fun init => do
    let condition ← rec (.expression mode 1)
    let consequence ← rec .block
    let alternative ← if ← isNextIn .statement "else" then do
        let _ ← take
        let next ← if ← isNext "if" then rec .statement else rec .block
        pure [next]
      else pure []
    node .ifStatement start (init ++ condition :: consequence :: alternative)

/-- A range clause. -/
def rangeClause (rec : Rec) (mode : Mode) : P Tree := do
  let start ← mark
  let left ← option do
    let left ← expressionList rec .header
    let op ← take
    if op.kind = .symbol && (op.text = ":=" || op.text = "=") then
      if ← isNext "range" then return [left.as .left, mark_ op] else failure
    else failure
  let _ ← expect "range"
  let right ← rec (.expression mode 1)
  node .rangeClause start (left.getD [] ++ [right.as .right])

/-- A clause with an initializer, a condition and an update, each of which may be missing. -/
def forClause (rec : Rec) (mode : Mode) : P Tree := do
  let start ← mark
  let init ← if ← skip ";" then pure [] else do
    let init ← upToSemicolon fun mode => rec (.simple mode)
    pure [init.as .initializer]
  let condition ← if ← skip ";" then pure [] else do
    let condition ← upToSemicolon fun mode => rec (.expression mode 1)
    pure [condition]
  let update ← if ← isNext "\x7b" then pure [] else do
    let update ← rec (.simple mode)
    pure [update]
  node .forClause start (init ++ condition ++ update)

def forStatement (rec : Rec) (mode : Mode) : P Tree := do
  let start ← mark
  let _ ← expect "for"
  let head ← if ← isNext "\x7b" then pure [] else do
    let condition := do
      let e ← rec (.expression mode 1)
      if ← isNext "\x7b" then return e else failure
    let clause ← orElse (rangeClause rec mode) (orElse condition (forClause rec mode))
    pure [clause]
  let body ← rec .block
  node .forStatement start (head ++ [body.as .body])

/-- The guard of a type switch: possibly names that it binds, and the value. -/
def typeSwitchGuard (rec : Rec) : P (List Tree) := do
  let names ← option do
    let left ← expressionList rec .header
    let _ ← expect ":="
    return left.as .alias
  let value ← rec (.expression .header 1)
  let _ ← expect "."
  let _ ← expect "("
  let _ ← expect "type"
  let _ ← expect ")"
  return names.toList ++ [value.as .value]

def defaultCase (rec : Rec) : P Tree := do
  let start ← mark
  let _ ← expect "default"
  let _ ← expect ":"
  let body ← statements rec
  node .defaultCase start body

/-- The cases between the braces of a switch or select. -/
def cases (rec : Rec) (kind : Kind) (head : P (List Tree)) : P (List Tree) := do
  let case := do
    let start ← mark
    let _ ← expect "case"
    let head ← head
    let _ ← expect ":"
    let body ← statements rec
    node kind start (head ++ body)
  let _ ← expect "\x7b"
  let items ← many do
    if ← isNext "\x7d" then return none
    else if ← isNext "default" then return some (← defaultCase rec)
    else return some (← case)
  let _ ← expect "\x7d"
  return items

def typeSwitch (rec : Rec) (start : Position) (initializer : List Tree) : P Tree := do
  let guard ← typeSwitchGuard rec
  let types := do
    let types ← commaList .inside (rec (.type .inside))
    return types.map (·.as .type)
  let items ← cases rec .typeCase types
  node .typeSwitchStatement start (initializer ++ guard ++ items)

def expressionSwitch (rec : Rec) (mode : Mode) (start : Position) (initializer : List Tree) :
    P Tree := do
  let value ← if ← isNext "\x7b" then pure [] else do
    let value ← rec (.expression mode 1)
    pure [value.as .value]
  let values := do
    let list ← expressionList rec .inside
    return [list.as .value]
  let items ← cases rec .expressionCase values
  node .expressionSwitchStatement start (initializer ++ value ++ items)

def switchStatement (rec : Rec) (mode : Mode) : P Tree := do
  let start ← mark
  let _ ← expect "switch"
  afterInitializer rec fun init =>
    orElse (typeSwitch rec start init) (expressionSwitch rec mode start init)

/-- A receive, possibly with names or targets for what it receives. -/
def receiveStatement (rec : Rec) : P Tree := do
  let start ← mark
  let left ← option do
    let left ← expressionList rec .inside
    let op ← take
    if op.kind = .symbol && (op.text = ":=" || op.text = "=") then return [left.as .left, mark_ op]
    else failure
  let right ← rec (.expression .inside 1)
  if ← isNext ":" then node .receiveStatement start (left.getD [] ++ [right.as .right])
  else failure

def sendCase (rec : Rec) : P Tree := do
  let start ← mark
  let channel ← rec (.expression .inside 1)
  let _ ← expect "<-"
  let value ← rec (.expression .inside 1)
  node .sendStatement start [channel, value.as .value]

def selectStatement (rec : Rec) : P Tree := do
  let start ← mark
  let _ ← expect "select"
  let communication := do
    return [← orElse (receiveStatement rec) (sendCase rec)]
  let items ← cases rec .communicationCase communication
  node .selectStatement start items

/-- A label, if one may follow a keyword. -/
def label? : P (List Tree) := do
  match ← next? .statement with
  | some t =>
    if t.kind = .word && !keywords.contains t.text then return [leaf .labelName (← take)]
    else return []
  | none => return []

/-- A statement with a label, or a label at the end of a block. -/
def labeledStatement (rec : Rec) : P Tree := do
  let start ← mark
  let n ← name
  let _ ← expect ":"
  let body ← match ← peek? with
    | none => pure []
    | some t =>
      if isSymbol "\x7d" t || isSymbol ";" t || t.text = "case" || t.text = "default" then pure []
      else do
        let body ← rec .statement
        pure [body]
  node .labeledStatement start (leaf .labelName n :: body)

def keywordStatement (kind : Kind) (rest : P (List Tree)) : P Tree := do
  let start ← mark
  let _ ← take
  let children ← rest
  node kind start children

/-- Whether an expression may follow a keyword, that is, no end of a statement. -/
def hasOperand : P Bool := do
  match ← next? .statement with
  | none => return false
  | some t =>
    return !(isSymbol ";" t || isSymbol "\x7d" t
      || (t.kind = .word && (t.text = "case" || t.text = "default")))

def statement (rec : Rec) : P Tree := do
  match ← peek? with
  | none => failure
  | some t =>
    if isSymbol "\x7b" t then rec .block
    else if t.kind = .word then
      match t.text with
      | "var" => varDeclaration rec
      | "const" => constDeclaration rec
      | "type" => typeDeclaration rec
      | "return" => keywordStatement .returnStatement do
          if ← hasOperand then return [← expressionList rec .statement] else return []
      | "go" => keywordStatement .goStatement do return [← rec (.expression .statement 1)]
      | "defer" => keywordStatement .deferStatement do return [← rec (.expression .statement 1)]
      | "if" => headed (ifStatement rec)
      | "for" => headed (forStatement rec)
      | "switch" => headed (switchStatement rec)
      | "select" => selectStatement rec
      | "fallthrough" => keywordStatement .fallthroughStatement (pure [])
      | "break" => keywordStatement .breakStatement label?
      | "continue" => keywordStatement .continueStatement label?
      | "goto" => keywordStatement .gotoStatement label?
      | _ => orElse (labeledStatement rec) (rec (.simple .statement))
    else rec (.simple .statement)

/-- A declaration or statement at the top level of a file. -/
def topLevel (rec : Rec) : P Tree := do
  if ← isNext "package" then packageClause
  else if ← isNext "import" then importDeclaration
  else if ← isNext "func" then
    orElse (functionDeclaration rec) (orElse (methodDeclaration rec) (rec .statement))
  else rec .statement

end LogStyle.Go.Parser
