import LogStyle.Go.Parser.Basic

/-!
# Types and signatures

Types are read as far as they matter: bodies of interfaces, for instance, are skipped.
-/

namespace LogStyle.Go.Parser

open P

/-- Types between square brackets. -/
def typeArguments (rec : Rec) : P Tree := do
  let start ← mark
  let types ← bracketed "[" "]" (rec (.type .inside))
  if types.isEmpty then failure else node .typeArguments start types

/-- A type with a name, possibly of another package and possibly with arguments. -/
def namedType (rec : Rec) (mode : Mode) : P Tree := do
  let start ← mark
  let first ← name
  let base ← if ← isNextIn mode "." then
      let _ ← take
      let second ← word
      pure (Tree.node none .qualifiedType ⟨start, second.span.stop⟩
        (first.text ++ "." ++ second.text)
        [(leaf .packageIdentifier first).as .package, (leaf .typeIdentifier second).as .name])
    else pure (leaf .typeIdentifier first)
  if ← isNextIn mode "[" then
    match ← option (typeArguments rec) with
    | some arguments => node .genericType start [base.as .type, arguments]
    | none => return base
  else return base

/-- Whether a token may start a type. -/
def startsType (t : Token) : Bool :=
  match t.kind with
  | .word =>
    !keywords.contains t.text
      || ["map", "chan", "struct", "interface", "func"].contains t.text
  | .symbol => ["*", "[", "(", "<-", "~"].contains t.text
  | _ => false

/-- One entry of a list of parameters: a name if there is one, whether dots follow, and a type. -/
structure ParameterEntry where
  start : Position
  stop : Position
  name : Option Token
  variadic : Bool
  type : Tree

def parameterEntry (rec : Rec) : P ParameterEntry := do
  let start ← mark
  let finish := fun (name : Option Token) (variadic : Bool) (type : Tree) => do
    return (⟨start, type.span.stop, name, variadic, type⟩ : ParameterEntry)
  let named := do
    let n ← name
    let variadic ← skip "..."
    finish (some n) variadic (← rec (.type .inside))
  let unnamed := do
    let variadic ← skip "..."
    finish none variadic (← rec (.type .inside))
  let ends := do
    if (← isNext ",") || (← isNext ")") then return else failure
  orElse (do let e ← named; ends; return e) unnamed

def ParameterEntry.tree (e : ParameterEntry) (earlier : List ParameterEntry) : Tree :=
  let start := (earlier.head?.map (·.start)).getD e.start
  let kind := if e.variadic then Kind.variadicParameterDeclaration else Kind.parameterDeclaration
  let names := earlier.map (fun e => e.type.text) ++ (e.name.map (·.text)).toList
  let spans := earlier.map (fun e => e.type.span) ++ (e.name.map (·.span)).toList
  let nodes := (names.zip spans).map fun (text, span) =>
    Tree.node (some .name) .identifier span text []
  .node none kind ⟨start, e.stop⟩ "" (nodes ++ [e.type.as .type])

/-- Whether an entry could be a name that shares the type of an entry that follows. -/
def ParameterEntry.isBare (e : ParameterEntry) : Bool :=
  e.name.isNone && !e.variadic && e.type.kind = .typeIdentifier

/-- Names without a type share the type of the next entry that has a name and a type. -/
def groupParameters (pending : List ParameterEntry) : List ParameterEntry → List Tree
  | [] => pending.map (·.tree [])
  | e :: rest =>
    if e.isBare then groupParameters (pending ++ [e]) rest
    else if e.name.isSome && !e.variadic then e.tree pending :: groupParameters [] rest
    else pending.map (·.tree []) ++ e.tree [] :: groupParameters [] rest

def parameterList (rec : Rec) : P Tree := do
  let start ← mark
  let entries ← bracketed "(" ")" (parameterEntry rec)
  node .parameterList start (groupParameters [] entries)

/-- The results of a function, if there are any. -/
def results (rec : Rec) (mode : Mode) : P (List Tree) := do
  match ← next? mode with
  | some t =>
    if isSymbol "(" t then return [(← parameterList rec).as .result]
    else if startsType t then return [(← rec (.type mode)).as .result]
    else return []
  | none => return []

def structField (rec : Rec) : P Tree := do
  let start ← mark
  let tag := do
    match ← next? .statement with
    | some t => if t.kind = .quoted || t.kind = .raw then let _ ← take
    | none => return
  let ends := do
    match ← peek? with
    | none => failure
    | some t => if t.lineBreak || isSymbol ";" t || isSymbol "\x7d" t then return else failure
  let embedded := do
    let _ ← skip "*"
    let type ← namedType rec .statement
    tag
    ends
    node .fieldDeclaration start [type.as .type]
  let named := do
    let names ← commaList .statement name
    let type ← rec (.type .statement)
    tag
    ends
    node .fieldDeclaration start
      (names.map (fun t => (leaf .fieldIdentifier t).as .name) ++ [type.as .type])
  orElse embedded named

def structType (rec : Rec) : P Tree := do
  let start ← mark
  let _ ← expect "struct"
  let bodyStart ← mark
  let _ ← expect "\x7b"
  let fields ← terminated (isSymbol "\x7d") (structField rec)
  let _ ← expect "\x7d"
  let body ← node .fieldDeclarationList bodyStart fields
  node .structType start [body]

/-- Types that start with a square bracket. -/
def bracketType (rec : Rec) (mode : Mode) : P Tree := do
  let start ← mark
  let _ ← expect "["
  if ← skip "]" then
    let element ← rec (.type mode)
    node .sliceType start [element]
  else if ← skip "..." then
    let _ ← expect "]"
    let element ← rec (.type mode)
    node .implicitLengthArrayType start [element]
  else
    let length ← rec (.expression .inside 1)
    let _ ← expect "]"
    let element ← rec (.type mode)
    node .arrayType start [length, element]

/-- A type. -/
def type (rec : Rec) (mode : Mode) : P Tree := do
  let start ← mark
  let t ← match ← peek? with
    | some t => pure t
    | none => failure
  match t.kind, t.text with
  | .symbol, "(" =>
    let _ ← take
    let inner ← rec (.type .inside)
    let _ ← expect ")"
    node .parenthesizedType start [inner]
  | .symbol, "*" =>
    let _ ← take
    let target ← rec (.type mode)
    node .pointerType start [target]
  | .symbol, "~" =>
    let _ ← take
    let inner ← rec (.type mode)
    node .negatedType start [inner]
  | .symbol, "[" => bracketType rec mode
  | .symbol, "<-" =>
    let _ ← take
    let _ ← expect "chan"
    let element ← rec (.type mode)
    node .channelType start [element]
  | .word, "chan" =>
    let _ ← take
    let _ ← skip "<-"
    let element ← rec (.type mode)
    node .channelType start [element]
  | .word, "map" =>
    let _ ← take
    let _ ← expect "["
    let key ← rec (.type .inside)
    let _ ← expect "]"
    let element ← rec (.type mode)
    node .mapType start [key, element]
  | .word, "struct" => structType rec
  | .word, "interface" =>
    let _ ← take
    brackets "\x7b"
    node .interfaceType start []
  | .word, "func" =>
    let _ ← take
    let parameters ← parameterList rec
    let results ← results rec mode
    node .functionType start (parameters.as .parameters :: results)
  | .word, _ => namedType rec mode
  | _, _ => failure

end LogStyle.Go.Parser
