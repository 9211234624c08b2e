import LogStyle.Span

/-!
# Expressions

The expressions of a source file, reduced to what the message rules look at. Every node carries an
identity under which a table may record what is known about it. Nodes that the rules do not
understand keep their parts, so that calls inside them stay visible.

* `Expr.stripParens`: the expression inside its parentheses.
* `Expr.nodes`: a node and all nodes below it, a node before its parts.
* `SourceUnit.calls`: the calls of a file in document order.
-/

namespace LogStyle

/-- The identity of a node within its file. -/
abbrev NodeId := Nat

/-- Binary operators: the one that joins texts, and any other. -/
inductive Operator where
  | add
  | other (symbol : String)
  deriving DecidableEq, Repr

/-- The name that a selector selects. It may be annotated on its own. -/
structure FieldName where
  id : NodeId
  name : String
  span : Span
  deriving DecidableEq, Repr

/-- An expression. -/
inductive Expr where
  /-- A string literal as it is written, with its delimiters. -/
  | literal (id : NodeId) (span : Span) (raw : String)
  | ident (id : NodeId) (span : Span) (name : String)
  | select (id : NodeId) (span : Span) (operand : Expr) (field : FieldName)
  | call (id : NodeId) (span : Span) (callee : Expr) (args : List Expr)
  | binary (id : NodeId) (span : Span) (op : Operator) (left right : Expr)
  | paren (id : NodeId) (span : Span) (inner : Expr)
  /-- Any other node, with the expressions below it in document order. -/
  | other (id : NodeId) (span : Span) (kind : String) (children : List Expr)
  deriving Repr, Inhabited

namespace Expr

def id : Expr → NodeId
  | literal id .. | ident id .. | select id .. | call id .. | binary id .. | paren id ..
  | other id .. => id

def span : Expr → Span
  | literal _ s .. | ident _ s .. | select _ s .. | call _ s .. | binary _ s .. | paren _ s ..
  | other _ s .. => s

/-- The expression without the parentheses around it. -/
def stripParens : Expr → Expr
  | paren _ _ inner => inner.stripParens
  | e => e

/-- Whether the expression is one string literal, parentheses aside. -/
def isLiteral (e : Expr) : Bool :=
  match e.stripParens with
  | literal .. => true
  | _ => false

def isCall : Expr → Bool
  | call .. => true
  | _ => false

mutual

/-- The node and all nodes below it, each before its parts and these in document order. -/
def nodes : Expr → List Expr
  | e@(literal ..) => [e]
  | e@(ident ..) => [e]
  | e@(select _ _ operand _) => e :: operand.nodes
  | e@(call _ _ callee args) => e :: (callee.nodes ++ nodesOfAll args)
  | e@(binary _ _ _ left right) => e :: (left.nodes ++ right.nodes)
  | e@(paren _ _ inner) => e :: inner.nodes
  | e@(other _ _ _ children) => e :: nodesOfAll children

/-- The nodes of several expressions, one expression after the other. -/
def nodesOfAll : List Expr → List Expr
  | [] => []
  | e :: rest => e.nodes ++ nodesOfAll rest

end

end Expr

/-- One source file: its path and its expressions in document order. -/
structure SourceUnit where
  path : String
  exprs : List Expr

/-- The calls of a file in document order, a call before those in its callee and arguments. -/
def SourceUnit.calls (unit : SourceUnit) : List Expr :=
  (Expr.nodesOfAll unit.exprs).filter Expr.isCall

end LogStyle
