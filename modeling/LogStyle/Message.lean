import LogStyle.Expr
import LogStyle.Literal

/-!
# Message texts

The literal text of a message argument. Only string literals and the operator that joins texts are
understood; any other part of a message contributes nothing.
-/

namespace LogStyle.Message

/-- The texts of the literals that an expression joins, from left to right. Literals that have no
value are left out. -/
def fragments : Expr → List String
  | .literal _ _ raw => (Literal.value? raw).toList
  | .binary _ _ .add left right => fragments left ++ fragments right
  | .paren _ _ inner => fragments inner
  | _ => []

/-- Whether a message may be replaced as a whole: it is one literal, parentheses aside. -/
def isReplaceable (message : Expr) : Bool := message.isLiteral

end LogStyle.Message
