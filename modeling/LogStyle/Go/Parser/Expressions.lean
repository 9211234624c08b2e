import LogStyle.Go.Parser.Types

/-!
# Expressions

Binary operators are read by their level. After an operand come selectors, indices, calls and the
bodies of literals. A name with types in square brackets may be a generic function or a generic
type; which of them it is depends on what follows.
-/

namespace LogStyle.Go.Parser

open P

/-- The level of a binary operator; a higher one binds more tightly. -/
def level? : String → Option Nat
  | "||" => some 1
  | "&&" => some 2
  | "==" | "!=" | "<" | "<=" | ">" | ">=" => some 3
  | "+" | "-" | "|" | "^" => some 4
  | "*" | "/" | "%" | "<<" | ">>" | "&" | "&^" => some 5
  | _ => none

def unaryOperators : List String := ["+", "-", "!", "^", "*", "&", "<-"]

def expressionList (rec : Rec) (mode : Mode) : P Tree := do
  let start ← mark
  let items ← commaList mode (rec (.expression mode 1))
  node .expressionList start items

/-- An argument of a call, possibly spread by dots. -/
def argument (rec : Rec) : P Tree := do
  let start ← mark
  let e ← rec (.expression .inside 1)
  if ← skip "..." then node .variadicArgument start [e] else return e

def argumentList (rec : Rec) : P Tree := do
  let start ← mark
  let arguments ← bracketed "(" ")" (argument rec)
  node .argumentList start arguments

/-- A type that is followed by a comma or the end of the arguments. -/
def typeArgument (rec : Rec) : P Tree := do
  let type ← rec (.type .inside)
  if (← isNext ",") || (← isNext ")") then return type else failure

/-- The arguments of a function whose first argument is a type. -/
def specialArgumentList (rec : Rec) : P Tree := do
  let start ← mark
  let _ ← expect "("
  let first ← typeArgument rec
  let more ← many do
    if ← skip "," then
      if ← isNext ")" then return none else return some (← rec (.expression .inside 1))
    else return none
  let _ ← expect ")"
  node .argumentList start (first :: more)

/-- The one operand of a conversion, between parentheses. -/
def conversionOperand (rec : Rec) : P Tree := do
  let _ ← expect "("
  let operand ← rec (.expression .inside 1)
  let _ ← skip ","
  let _ ← expect ")"
  return operand

def conversion (rec : Rec) (start : Position) (type : Tree) : P Tree := do
  let operand ← conversionOperand rec
  node .typeConversionExpression start [type.as .type, operand.as .operand]

def compositeLiteral (rec : Rec) (start : Position) (type : Tree) : P Tree := do
  let body ← rec .literalBody
  node .compositeLiteral start [type.as .type, body.as .body]

/-- An element of the body of a literal. -/
def literalElement (rec : Rec) : P Tree := do
  let start ← mark
  let inner ← if ← isNext "\x7b" then rec .literalBody else rec (.expression .inside 1)
  node .literalElement start [inner]

def keyedElement (rec : Rec) : P Tree := do
  let start ← mark
  let first ← literalElement rec
  if ← skip ":" then
    let second ← literalElement rec
    node .keyedElement start [first, second.as .value]
  else return first

def literalBody (rec : Rec) : P Tree := do
  let start ← mark
  let elements ← bracketed "\x7b" "\x7d" (keyedElement rec)
  node .literalValue start elements

/-- A function literal. -/
def functionLiteral (rec : Rec) : P Tree := do
  let start ← mark
  let _ ← expect "func"
  let parameters ← parameterList rec
  let results ← results rec .inside
  let body ← rec .block
  node .funcLiteral start (parameters.as .parameters :: results ++ [body.as .body])

/-- A type in the place of an operand: it is converted to, or the type of a literal. -/
def typeOperand (rec : Rec) (mode : Mode) : P Tree := do
  let start ← mark
  let type ← rec (.type .inside)
  if ← isNextIn mode "(" then conversion rec start type
  else if ← isNextIn mode "\x7b" then compositeLiteral rec start type
  else failure

def wordKind : String → Kind
  | "nil" => .nilValue
  | "true" => .trueValue
  | "false" => .falseValue
  | "iota" => .iotaValue
  | _ => .identifier

/-- What an expression may start with, unary operators aside. -/
def operand (rec : Rec) (mode : Mode) : P Tree := do
  let start ← mark
  let t ← match ← peek? with
    | some t => pure t
    | none => failure
  match t.kind with
  | .integer => leaf .intLiteral <$> take
  | .float => leaf .floatLiteral <$> take
  | .imaginary => leaf .imaginaryLiteral <$> take
  | .rune => leaf .runeLiteral <$> take
  | .quoted => leaf .interpretedStringLiteral <$> take
  | .raw => leaf .rawStringLiteral <$> take
  | .word =>
    if t.text = "func" then orElse (functionLiteral rec) (typeOperand rec mode)
    else if keywords.contains t.text then typeOperand rec mode
    else
      let t ← take
      return leaf (wordKind t.text) t
  | .symbol =>
    if t.text = "(" then
      let expression := do
        let _ ← take
        let inner ← rec (.expression .inside 1)
        let _ ← expect ")"
        node .parenthesizedExpression start [inner]
      orElse expression (typeOperand rec mode)
    else if t.text = "[" || t.text = "<-" then typeOperand rec mode
    else failure

/-- Whether an expression is a name, possibly of another package. -/
def isTypeName (e : Tree) : Bool :=
  match e.kind with
  | .identifier => true
  | .selectorExpression => (e.child? .operand).any (·.kind = .identifier)
  | _ => false

/-- A name as the name of a type. -/
def typeNameOf (e : Tree) : Tree :=
  match e.kind, e.child? .operand, e.child? .member with
  | .selectorExpression, some package, some member =>
    .node none .qualifiedType e.span (package.text ++ "." ++ member.text)
      [.node (some .package) .packageIdentifier package.span package.text [],
        .node (some .name) .typeIdentifier member.span member.text []]
  | _, _, _ => .node none .typeIdentifier e.span e.text []

/-- A selector or a type assertion. The guard of a type switch is left alone. -/
def dotSuffix (rec : Rec) (e : Tree) : P (Option Tree) := do
  let guard ← option do
    let _ ← expect "."
    let _ ← expect "("
    let _ ← expect "type"
  -- the attempt above takes tokens only if it succeeds
  match guard with
  | some _ => failure
  | none =>
    let _ ← expect "."
    if ← skip "(" then
      let type ← rec (.type .inside)
      let _ ← expect ")"
      some <$> node .typeAssertionExpression e.span.start [e.as .operand, type.as .type]
    else
      let member ← word
      some <$> node .selectorExpression e.span.start
        [e.as .operand, (leaf .fieldIdentifier member).as .member]

/-- A name with types in square brackets before what shows that they are types: a conversion, a
call, or the body of a literal. -/
def genericSuffix (rec : Rec) (mode : Mode) (e : Tree) : P (Option Tree) := do
  let start := e.span.start
  let arguments ← typeArguments rec
  let type := do
    node .genericType start [(typeNameOf e).as .type, arguments]
  if ← isNextIn mode "(" then
    let generic ← type
    let call := do
      let list ← argumentList rec
      node .callExpression start [e.as .function, arguments, list.as .arguments]
    if isTypeName e then some <$> orElse (conversion rec start generic) call
    else some <$> call
  else if (← isNextIn mode "\x7b") && mode.literals && isTypeName e then
    let generic ← type
    some <$> compositeLiteral rec start generic
  else failure

/-- A name with types in square brackets that stands on its own. -/
def instantiationSuffix (rec : Rec) (e : Tree) : P (Option Tree) := do
  let arguments ← typeArguments rec
  some <$> node .typeInstantiationExpression e.span.start [(typeNameOf e).as .type, arguments]

/-- An index or a slice. -/
def indexSuffix (rec : Rec) (e : Tree) : P (Option Tree) := do
  let start := e.span.start
  let part := do
    if (← isNext ":") || (← isNext "]") then return []
    else return [← rec (.expression .inside 1)]
  let _ ← expect "["
  let first ← part
  if ← skip ":" then
    let second ← part
    let third ← if ← skip ":" then part else pure []
    let _ ← expect "]"
    some <$> node .sliceExpression start (e.as .operand :: first ++ second ++ third)
  else
    let _ ← expect "]"
    some <$> node .indexExpression start (e.as .operand :: first)

def callSuffix (rec : Rec) (e : Tree) : P (Option Tree) := do
  let list ← if e.kind = .identifier && (e.text = "new" || e.text = "make") then
      orElse (specialArgumentList rec) (argumentList rec)
    else argumentList rec
  some <$> node .callExpression e.span.start [e.as .function, list.as .arguments]

/-- Extends an operand by what follows it. -/
def suffix (rec : Rec) (mode : Mode) (e : Tree) : P (Option Tree) := do
  match ← next? mode with
  | none => return none
  | some t =>
    if t.kind ≠ .symbol then return none
    else
      match t.text with
      | "." => orElse (dotSuffix rec e) (pure none)
      | "(" => callSuffix rec e
      | "[" =>
        -- what can be read as an index on its own is one
        orElse (genericSuffix rec mode e) (orElse (indexSuffix rec e) (instantiationSuffix rec e))
      | "\x7b" =>
        if mode.literals && isTypeName e then
          orElse (some <$> compositeLiteral rec e.span.start (typeNameOf e)) (pure none)
        else return none
      | _ => return none

/-- An operand with the unary operators before it and all that follows it. -/
def unary (rec : Rec) (mode : Mode) : P Tree := do
  let start ← mark
  match ← peek? with
  | none => failure
  | some t =>
    let prefixed := do
      let op ← take
      -- a level above all binary operators
      let inner ← rec (.expression mode 6)
      node .unaryExpression start [(mark_ op).as .operator, inner.as .operand]
    let plain := do
      let first ← operand rec mode
      extend (suffix rec mode) first
    if t.kind = .symbol && unaryOperators.contains t.text then
      -- an arrow belongs to the type of a channel if one follows
      if t.text = "<-" then orElse plain prefixed else prefixed
    else plain

/-- An expression whose operators have at least a given level. -/
def expression (rec : Rec) (mode : Mode) (least : Nat) : P Tree := do
  let first ← unary rec mode
  extend
    (fun left => do
      match ← next? mode with
      | none => return none
      | some t =>
        match (if t.kind = .symbol then level? t.text else none) with
        | none => return none
        | some level =>
          if level < least then return none
          else
            let op ← take
            let right ← rec (.expression mode (level + 1))
            some <$> node .binaryExpression left.span.start
              [left.as .left, (mark_ op).as .operator, right.as .right])
    first

end LogStyle.Go.Parser
