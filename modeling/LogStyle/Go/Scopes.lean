import LogStyle.Bindings
import LogStyle.Typing

/-!
# Scopes

The blocks that are open at some point of a file, and the names bound in them. A name may be bound
without a known type; it still hides what the name meant outside.

* `Scopes.push`, `Scopes.pop`: open and close a block. The file itself is never closed.
* `Scopes.declare`: binds a name in the innermost block. The blank name `_` is never bound.
* `Scopes.lookup`: what a name is bound to, from the innermost block outwards.
-/

namespace LogStyle.Go

/-- The names bound in one block, each with its type if that is known. -/
abbrev Frame := Bindings String (Option StaticType)

/-- The open blocks, the innermost first, and the file around them. -/
structure Scopes where
  nested : List Frame := []
  file : Frame := .empty

namespace Scopes

def push (s : Scopes) : Scopes := { s with nested := .empty :: s.nested }

def pop (s : Scopes) : Scopes := { s with nested := s.nested.tail }

/-- The frames from the innermost outwards. -/
def frames (s : Scopes) : List Frame := s.nested ++ [s.file]

/-- Binds a name in the innermost block. -/
def declare (s : Scopes) (name : String) (type : Option StaticType) : Scopes :=
  if name = "_" then s
  else match s.nested with
    | [] => { s with file := s.file.insert name type }
    | frame :: outer => { s with nested := frame.insert name type :: outer }

/-- The binding of a name: `none` if it is not bound, `some none` if its type is not known. -/
def lookup (s : Scopes) (name : String) : Option (Option StaticType) :=
  s.frames.findSome? (·.get? name)

end Scopes

end LogStyle.Go
