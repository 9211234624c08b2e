/-!
# Places in a source text

Offsets and columns count bytes; lines and columns start at one.
-/

namespace LogStyle

/-- A point of a source text. -/
structure Position where
  offset : Nat := 0
  line : Nat := 0
  column : Nat := 0
  deriving DecidableEq, Repr, Inhabited

/-- The start of a text. -/
def Position.first : Position := ⟨0, 1, 1⟩

/-- The point after a character. -/
def Position.after (p : Position) (c : Char) : Position :=
  if c = '\n' then ⟨p.offset + 1, p.line + 1, 1⟩
  else ⟨p.offset + c.utf8Size, p.line, p.column + c.utf8Size⟩

/-- A stretch of a source text, its end excluded. -/
structure Span where
  start : Position := {}
  stop : Position := {}
  deriving DecidableEq, Repr, Inhabited

namespace Span

/-- The number of bytes, zero where the end lies before the start. -/
def length (s : Span) : Nat := s.stop.offset - s.start.offset

def isEmpty (s : Span) : Bool := s.length = 0

end Span

end LogStyle
