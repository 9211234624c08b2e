import LogStyle.Go.Parser.Statements

/-!
# Reading Go files

* `Parser.parse`: a parser for every part of the grammar, with a bound on the depth of recursion.
* `Tree.ofSource?`: the syntax tree of a file. The bound is large enough for any file, because
  only a limited number of parts begin at one token.
-/

namespace LogStyle.Go

namespace Parser

/-- A part of the grammar, given a parser for the parts that it is made of. -/
def part (rec : Rec) : Goal → P Tree
  | .expression mode level => expression rec mode level
  | .type mode => type rec mode
  | .block => block rec
  | .statement => statement rec
  | .simple mode => simpleStatement rec mode
  | .literalBody => literalBody rec

def parse : (fuel : Nat) → Rec
  | 0, _ => failure
  | fuel + 1, goal => part (parse fuel) goal

def sourceFile (fuel : Nat) : P Tree := do
  let start ← P.mark
  let items ← P.terminated (fun _ => false) (topLevel (parse fuel))
  P.node .sourceFile start items

end Parser

/-- The syntax tree of a file, if the text is one. -/
def Tree.ofSource? (source : String) : Option Tree := do
  let tokens ← tokens? source
  let (tree, input) ← Parser.sourceFile (8 * tokens.length + 16) ⟨Position.first, tokens⟩
  if input.rest.isEmpty then some tree else none

end LogStyle.Go
