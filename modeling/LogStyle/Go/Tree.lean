import LogStyle.Go.Kind
import LogStyle.Span

/-!
# Syntax trees

A node has a kind, the stretch of the source that it covers and, if it has a role in its parent, a
field. The text is kept where it matters: of names, literals, operators and qualified types.
Comments are not part of the tree.

* `Tree.parts`: the nodes below a node, without punctuation.
* `Tree.child?`, `Tree.childTexts`: the nodes in a given role.
-/

namespace LogStyle.Go

/-- The role of a node in its parent. -/
inductive Field where
  | name
  | type
  | value
  | path
  | package
  | receiver
  | parameters
  | result
  | body
  | left
  | right
  | operator
  | operand
  | member
  | function
  | arguments
  | initializer
  | alias
  deriving DecidableEq, Repr

/-- A node of a syntax tree. -/
inductive Tree where
  | node (field : Option Field) (kind : Kind) (span : Span) (text : String) (children : List Tree)
  deriving Repr, Inhabited

namespace Tree

def field : Tree → Option Field
  | node field .. => field

def kind : Tree → Kind
  | node _ kind .. => kind

def span : Tree → Span
  | node _ _ span .. => span

def text : Tree → String
  | node _ _ _ text _ => text

def children : Tree → List Tree
  | node _ _ _ _ children => children

/-- Gives a node its role. -/
def as (t : Tree) (field : Field) : Tree := node (some field) t.kind t.span t.text t.children

/-- Whether a node is more than punctuation. -/
def isNamed (t : Tree) : Bool := t.kind ≠ .token

/-- The nodes below a node, without punctuation. -/
def parts (t : Tree) : List Tree := t.children.filter isNamed

/-- The first node in a role. -/
def child? (t : Tree) (field : Field) : Option Tree :=
  t.children.find? (·.field = some field)

/-- The texts of all nodes in a role. -/
def childTexts (t : Tree) (field : Field) : List String :=
  (t.children.filter (·.field = some field)).map text

/-- Whether a punctuation mark stands directly below a node. -/
def hasToken (t : Tree) (text : String) : Bool :=
  t.children.any fun c => c.kind = .token && c.text = text

end Tree

end LogStyle.Go
