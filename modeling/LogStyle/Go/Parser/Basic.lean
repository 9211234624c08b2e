import LogStyle.Go.Token
import LogStyle.Go.Tree

/-!
# Parsers of syntax trees

A parser takes tokens from the front of a list and may fail. The grammar is recursive, and each of
its parts is written as a function of the parser for the other parts: `Goal` names the parts, and
`Rec` is a parser for all of them.

A line end counts only where it can end something, as a semicolon does. `Mode` says whether it does
at some place, and whether an opening brace there may start the body of a literal.
-/

namespace LogStyle.Go

/-- The tokens that are left, and where the last one that was taken ended. -/
structure Input where
  last : Position
  rest : List Token

abbrev P := StateT Input Option

/-- What a place in the source allows. -/
structure Mode where
  /-- An opening brace after a type name starts the body of a literal. -/
  literals : Bool
  /-- A line end ends what is being read. -/
  lines : Bool
  deriving DecidableEq, Repr

namespace Mode

/-- Among the statements of a block. -/
def statement : Mode := ⟨true, true⟩

/-- Between brackets of any kind. -/
def inside : Mode := ⟨true, false⟩

/-- Between the keyword of a statement and the body of the statement. -/
def header : Mode := ⟨false, false⟩

end Mode

/-- The recursive parts of the grammar. -/
inductive Goal where
  /-- An expression whose operators bind at least as tightly as a level. -/
  | expression (mode : Mode) (level : Nat)
  | type (mode : Mode)
  | block
  | statement
  /-- A statement that may stand in a header. -/
  | simple (mode : Mode)
  /-- The body of a literal. -/
  | literalBody

abbrev Rec := Goal → P Tree

namespace P

/-- Tries one parser and, if it fails, another one. -/
def orElse (p q : P α) : P α := fun input => (p input).or (q input)

/-- The result of a parser, or nothing where it fails. -/
def option (p : P α) : P (Option α) := orElse (some <$> p) (pure none)

/-- The next token. -/
def peek? : P (Option Token) := fun input => some (input.rest.head?, input)

/-- The next token, unless a line end stands before it and counts. -/
def next? (mode : Mode) : P (Option Token) := fun input =>
  some (input.rest.head?.filter fun t => !(mode.lines && t.lineBreak), input)

/-- Takes the next token. -/
def take : P Token := fun input =>
  match input.rest with
  | [] => none
  | t :: rest => some (t, ⟨t.span.stop, rest⟩)

/-- Whether the next token is a given symbol or keyword. -/
def isNext (text : String) : P Bool := do
  return (← peek?).any fun t => (t.kind = .symbol || t.kind = .word) && t.text = text

/-- As `isNext`, unless a line end stands before the token and counts. -/
def isNextIn (mode : Mode) (text : String) : P Bool := do
  return (← next? mode).any fun t => (t.kind = .symbol || t.kind = .word) && t.text = text

/-- Takes a given symbol or keyword. -/
def expect (text : String) : P Token := do
  if ← isNext text then take else failure

/-- Takes a given symbol or keyword if it comes next. -/
def skip (text : String) : P Bool := do
  if ← isNext text then
    let _ ← take
    return true
  else return false

/-- A word, even a keyword. -/
def word : P Token := do
  let t ← take
  if t.kind = .word then return t else failure

/-- A word that is not a keyword. -/
def name : P Token := do
  let t ← word
  if keywords.contains t.text then failure else return t

/-- Where the next token starts. -/
def mark : P Position := fun input =>
  some ((input.rest.head?.map (·.span.start)).getD input.last, input)

/-- A node from a mark up to the last token that was taken. -/
def node (kind : Kind) (start : Position) (children : List Tree) : P Tree := fun input =>
  some (.node none kind ⟨start, input.last⟩ "" children, input)

/-- A node without parts. -/
def leaf (kind : Kind) (t : Token) : Tree := .node none kind t.span t.text []

/-- A punctuation mark that is kept. -/
def mark_ (t : Token) : Tree := leaf .token t

/-- How often a parser may be repeated at most. -/
def size : P Nat := fun input => some (input.rest.length + 1, input)

/-- Repeats a parser for as long as it gives a result. -/
def repeatUpTo (p : P (Option α)) : (fuel : Nat) → P (List α)
  | 0 => pure []
  | fuel + 1 => do
    match ← p with
    | none => return []
    | some a => return a :: (← repeatUpTo p fuel)

def many (p : P (Option α)) : P (List α) := do repeatUpTo p (← size)

/-- Extends a result for as long as that is possible. -/
def extendUpTo (p : α → P (Option α)) : (fuel : Nat) → α → P α
  | 0, a => pure a
  | fuel + 1, a => do
    match ← p a with
    | none => return a
    | some b => extendUpTo p fuel b

def extend (p : α → P (Option α)) (a : α) : P α := do extendUpTo p (← size) a

/-- One or more items with commas between them. A line end before a comma may count. -/
def commaList (mode : Mode) (item : P α) : P (List α) := do
  let first ← item
  let rest ← many do
    if ← isNextIn mode "," then
      let _ ← take
      return some (← item)
    else return none
  return first :: rest

/-- Items between brackets with commas between them and possibly one after the last. -/
def bracketed (opening closing : String) (item : P α) : P (List α) := do
  let _ ← expect opening
  let items ← many do
    if ← isNext closing then return none
    else
      let a ← item
      if !(← isNext closing) then
        let _ ← expect ","
      return some a
  let _ ← expect closing
  return items

/-- Takes semicolons. -/
def semicolons : P Unit := do
  let _ ← many do
    if ← skip ";" then return some () else return none

/-- The end of a statement or a declaration: a semicolon, a line end, or a bracket that closes what
it stands in, or the next case. -/
def terminator : P Unit := do
  match ← peek? with
  | none => return
  | some t =>
    if t.text = ";" && t.kind = .symbol then
      let _ ← take
    else if t.lineBreak then return
    else if t.kind = .symbol && (t.text = "\x7d" || t.text = ")") then return
    else if t.kind = .word && (t.text = "case" || t.text = "default") then return
    else failure

/-- Items that are ended as statements are, up to a closing bracket or the end. -/
def terminated (isEnd : Token → Bool) (item : P α) : P (List α) := do
  many do
    semicolons
    match ← peek? with
    | none => return none
    | some t =>
      if isEnd t then return none
      else
        let a ← item
        terminator
        return some a

/-- Whether a token is a given symbol. -/
def isSymbol (text : String) (t : Token) : Bool := t.kind = .symbol && t.text = text

/-- Takes tokens up to the bracket that closes the one just taken. -/
def skipBrackets (depth : Nat) : List Token → Option (Position × List Token)
  | [] => none
  | t :: rest =>
    if t.kind = .symbol && (t.text = "(" || t.text = "[" || t.text = "\x7b") then
      skipBrackets (depth + 1) rest
    else if t.kind = .symbol && (t.text = ")" || t.text = "]" || t.text = "\x7d") then
      match depth with
      | 0 => some (t.span.stop, rest)
      | depth + 1 => skipBrackets depth rest
    else skipBrackets depth rest

/-- Takes an opening bracket and everything up to the one that closes it. -/
def brackets (opening : String) : P Unit := do
  let _ ← expect opening
  fun input => (skipBrackets 0 input.rest).map fun (last, rest) => ((), ⟨last, rest⟩)

end P

end LogStyle.Go
