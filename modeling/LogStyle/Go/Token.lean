import LogStyle.Span
import LogStyle.Text.Blank
import LogStyle.Text.Trait

/-!
# Tokens

* `Token`: a token with its place and whether a line ends before it.
* `tokens?`: the tokens of a source text.
-/

namespace LogStyle.Go

/-- The classes of tokens. Keywords are words. -/
inductive TokenKind where
  | word
  | integer
  | float
  | imaginary
  | rune
  | quoted
  | raw
  | symbol
  deriving DecidableEq, Repr

structure Token where
  kind : TokenKind
  text : String
  span : Span
  /-- Whether a line ends between the token before and this one, outside of comments. -/
  lineBreak : Bool
  deriving DecidableEq, Repr

/-- The words that cannot be names. -/
def keywords : List String := [
  "break", "case", "chan", "const", "continue", "default", "defer", "else", "fallthrough", "for",
  "func", "go", "goto", "if", "import", "interface", "map", "package", "range", "return", "select",
  "struct", "switch", "type", "var"]

def isWordStart (c : Char) : Bool :=
  c.isAlpha || c = '_' || (0x80 ≤ c.toNat && Text.identifierStartSet.mem c)

def isWordPart (c : Char) : Bool :=
  c.isAlphanum || c = '_' || (0x80 ≤ c.toNat && Text.identifierPartSet.mem c)

/-- Operators and punctuation marks, longer ones first. -/
def symbols : List String := [
  "<<=", ">>=", "&^=", "...",
  "&&", "||", "<-", "++", "--", "==", "!=", "<=", ">=", ":=", "+=", "-=", "*=", "/=", "%=", "&=",
  "|=", "^=", "<<", ">>", "&^",
  "+", "-", "*", "/", "%", "&", "|", "^", "<", ">", "=", "!", "(", ")", "[", "]", "\x7b", "\x7d",
  ",", ";", ".", ":", "~"]

/-- A literal up to its closing delimiter, in which a backslash takes the next character along.
Gives its rest with the delimiter, and what follows. -/
def delimited? (stop : Char) : List Char → Option (List Char × List Char)
  | [] => none
  | '\\' :: c :: rest =>
    (delimited? stop rest).map fun (body, rest) => ('\\' :: c :: body, rest)
  | c :: rest =>
    if c = stop then some ([c], rest)
    else if c = '\n' then none
    else (delimited? stop rest).map fun (body, rest) => (c :: body, rest)

/-- A literal without escapes up to its closing backquote. -/
def backquoted? : List Char → Option (List Char × List Char)
  | [] => none
  | c :: rest =>
    if c = '\x60' then some ([c], rest)
    else (backquoted? rest).map fun (body, rest) => (c :: body, rest)

/-- A comment up to its closing mark. -/
def comment? : List Char → Option (List Char × List Char)
  | [] => none
  | '*' :: '/' :: rest => some (['*', '/'], rest)
  | c :: rest => (comment? rest).map fun (body, rest) => (c :: body, rest)

/-- The characters of a number. A sign belongs to it after the letter of an exponent, which is `p`
if the number is hexadecimal and `e` otherwise. -/
def numberRun (hex : Bool) (afterExponent : Bool) : List Char → List Char × List Char
  | [] => ([], [])
  | c :: rest =>
    if c.isAlphanum || c = '_' || c = '.' || (afterExponent && (c = '+' || c = '-')) then
      let isExponent := if hex then c = 'p' || c = 'P' else c = 'e' || c = 'E'
      let (run, rest) := numberRun hex isExponent rest
      (c :: run, rest)
    else ([], c :: rest)

/-- The class of a number. -/
def numberKind (hex : Bool) (run : List Char) : TokenKind :=
  let exponent : Char → Bool := fun c => if hex then c = 'p' || c = 'P' else c = 'e' || c = 'E'
  if run.getLast? = some 'i' then .imaginary
  else if run.any fun c => c = '.' || exponent c then .float
  else .integer

def isHexadecimal : List Char → Bool
  | '0' :: 'x' :: _ => true
  | '0' :: 'X' :: _ => true
  | _ => false

/-- The next token of a text that starts with one: its class, its characters, and the rest. -/
def token? (cs : List Char) : Option (TokenKind × List Char × List Char) :=
  let number := fun (_ : Unit) =>
    let hex := isHexadecimal cs
    let (run, rest) := numberRun hex false cs
    some (numberKind hex run, run, rest)
  match cs with
  | [] => none
  | '"' :: rest => (delimited? '"' rest).map fun (body, rest) => (.quoted, '"' :: body, rest)
  | '\'' :: rest => (delimited? '\'' rest).map fun (body, rest) => (.rune, '\'' :: body, rest)
  | '\x60' :: rest => (backquoted? rest).map fun (body, rest) => (.raw, '\x60' :: body, rest)
  | c :: rest =>
    if isWordStart c then some (.word, cs.takeWhile isWordPart, cs.dropWhile isWordPart)
    else if c.isDigit || (c = '.' && rest.head?.any Char.isDigit) then number ()
    else
      (symbols.find? fun s => s.toList.isPrefixOf cs).map fun s =>
        (.symbol, s.toList, cs.drop s.length)

/-- The point after some characters. -/
def Position.afterAll (p : Position) (cs : List Char) : Position := cs.foldl Position.after p

/-- The tokens of the rest of a text, which starts at a position. A byte order mark may stand in
front of everything. -/
def tokensFrom? :
    (fuel : Nat) → Position → (lineBreak : Bool) → List Char → Option (List Token)
  | 0, _, _, _ => none
  | fuel + 1, pos, lineBreak, cs =>
    match cs with
    | [] => some []
    | '/' :: '/' :: rest =>
      let body := rest.takeWhile (· ≠ '\n')
      tokensFrom? fuel (Position.afterAll pos ('/' :: '/' :: body)) lineBreak
        (rest.dropWhile (· ≠ '\n'))
    | '/' :: '*' :: rest => do
      let (body, rest) ← comment? rest
      tokensFrom? fuel (Position.afterAll pos ('/' :: '*' :: body)) lineBreak rest
    | c :: rest =>
      if Text.isBlank c || (c = '\ufeff' && pos.offset = 0) then
        tokensFrom? fuel (pos.after c) (lineBreak || c = '\n') rest
      else do
        let (kind, text, rest) ← token? (c :: rest)
        let stop := Position.afterAll pos text
        let more ← tokensFrom? fuel stop false rest
        some (⟨kind, String.ofList text, ⟨pos, stop⟩, lineBreak⟩ :: more)

/-- The tokens of a source text. -/
def tokens? (source : String) : Option (List Token) :=
  let cs := source.toList
  tokensFrom? (cs.length + 1) Position.first false cs

end LogStyle.Go
