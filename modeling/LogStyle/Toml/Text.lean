import LogStyle.Toml.Scalar

/-!
# Strings and keys

* `string?`: a string of one of the four kinds.
* `keyPath?`: a key with its dots.
-/

namespace LogStyle.Toml

/-- A space or a tab. -/
def isBlank (c : Char) : Bool := c = ' ' || c = '\t'

def skipBlanks (cs : List Char) : List Char := cs.dropWhile isBlank

/-- A character that may stand in a string or comment on one line. -/
def isPlain (c : Char) : Bool :=
  c = '\t' || (0x20 ≤ c.toNat && c.toNat ≤ 0x7e) || 0x80 ≤ c.toNat

/-- The end of a line. -/
def newline? : List Char → Option (List Char)
  | '\n' :: rest => some rest
  | '\r' :: '\n' :: rest => some rest
  | _ => none

/-- The character that a letter after a backslash stands for. -/
def escapeLetter? : Char → Option Char
  | 'b' => some '\x08'
  | 'f' => some '\x0c'
  | 'n' => some '\n'
  | 'r' => some '\r'
  | 't' => some '\t'
  | '\\' => some '\\'
  | '"' => some '"'
  | _ => none

/-- A string on one line after its opening quotation mark. -/
def basic? : List Char → Option (List Char × List Char)
  | [] => none
  | '"' :: rest => some ([], rest)
  | '\\' :: e :: rest =>
    let add := fun (c : Char) (r : Option (List Char × List Char)) =>
      r.map fun (text, rest) => (c :: text, rest)
    match escapeLetter? e with
    | some c => add c (basic? rest)
    | none =>
      if e = 'u' then
        match rest with
        | d1 :: d2 :: d3 :: d4 :: rest => do
          add (← Text.hexChar? [d1, d2, d3, d4]) (basic? rest)
        | _ => none
      else if e = 'U' then
        match rest with
        | d1 :: d2 :: d3 :: d4 :: d5 :: d6 :: d7 :: d8 :: rest => do
          add (← Text.hexChar? [d1, d2, d3, d4, d5, d6, d7, d8]) (basic? rest)
        | _ => none
      else none
  | c :: rest =>
    if isPlain c && c ≠ '\\' then (basic? rest).map fun (text, rest) => (c :: text, rest) else none

/-- A string without escapes on one line after its opening apostrophe. -/
def literal? : List Char → Option (List Char × List Char)
  | [] => none
  | '\'' :: rest => some ([], rest)
  | c :: rest =>
    if isPlain c then (literal? rest).map fun (text, rest) => (c :: text, rest) else none

/-- Whether only blanks follow up to the end of the line. -/
def endsLine (cs : List Char) : Bool := (newline? (skipBlanks cs)).isSome

/-- A string over several lines after its opening quotation marks. While `trim` is on, blanks and
line ends are dropped. One or two quotation marks may stand before the closing ones. -/
def multiBasic? (trim : Bool) : List Char → Option (List Char × List Char)
  | [] => none
  | '"' :: '"' :: '"' :: '"' :: '"' :: rest => some (['"', '"'], rest)
  | '"' :: '"' :: '"' :: '"' :: rest => some (['"'], rest)
  | '"' :: '"' :: '"' :: rest => some ([], rest)
  | '\\' :: e :: rest =>
    let add := fun (c : Char) (r : Option (List Char × List Char)) =>
      r.map fun (text, rest) => (c :: text, rest)
    match escapeLetter? e with
    | some c => add c (multiBasic? false rest)
    | none =>
      if e = 'u' then
        match rest with
        | d1 :: d2 :: d3 :: d4 :: rest => do
          add (← Text.hexChar? [d1, d2, d3, d4]) (multiBasic? false rest)
        | _ => none
      else if e = 'U' then
        match rest with
        | d1 :: d2 :: d3 :: d4 :: d5 :: d6 :: d7 :: d8 :: rest => do
          add (← Text.hexChar? [d1, d2, d3, d4, d5, d6, d7, d8]) (multiBasic? false rest)
        | _ => none
      else if endsLine (e :: rest) then multiBasic? true (e :: rest)
      else none
  | '\r' :: '\n' :: rest =>
    if trim then multiBasic? true rest
    else (multiBasic? false rest).map fun (text, rest) => ('\n' :: text, rest)
  | c :: rest =>
    if trim && (isBlank c || c = '\n') then multiBasic? true rest
    else if (isPlain c && c ≠ '\\') || c = '\n' then
      (multiBasic? false rest).map fun (text, rest) => (c :: text, rest)
    else none

/-- A string without escapes over several lines after its opening apostrophes. -/
def multiLiteral? : List Char → Option (List Char × List Char)
  | [] => none
  | '\'' :: '\'' :: '\'' :: '\'' :: '\'' :: rest => some (['\'', '\''], rest)
  | '\'' :: '\'' :: '\'' :: '\'' :: rest => some (['\''], rest)
  | '\'' :: '\'' :: '\'' :: rest => some ([], rest)
  | '\r' :: '\n' :: rest => (multiLiteral? rest).map fun (text, rest) => ('\n' :: text, rest)
  | c :: rest =>
    if isPlain c || c = '\n' then
      (multiLiteral? rest).map fun (text, rest) => (c :: text, rest)
    else none

/-- The line end right after the opening of a string over several lines does not count. -/
def skipFirstNewline (cs : List Char) : List Char := (newline? cs).getD cs

/-- A string. -/
def string? : List Char → Option (List Char × List Char)
  | '"' :: '"' :: '"' :: rest => multiBasic? false (skipFirstNewline rest)
  | '"' :: rest => basic? rest
  | '\'' :: '\'' :: '\'' :: rest => multiLiteral? (skipFirstNewline rest)
  | '\'' :: rest => literal? rest
  | _ => none

/-- A character of a key without quotes. -/
def isBareKeyChar (c : Char) : Bool := c.isAlphanum || c = '_' || c = '-'

/-- A key without dots. -/
def simpleKey? (cs : List Char) : Option (List Char × List Char) :=
  match cs with
  | '"' :: rest => basic? rest
  | '\'' :: rest => literal? rest
  | _ =>
    let bare := cs.takeWhile isBareKeyChar
    if bare.isEmpty then none else some (bare, cs.dropWhile isBareKeyChar)

/-- How many parts a key may have, and how deep values may be nested. -/
def depthLimit : Nat := 80

/-- The parts of a key, with blanks around each of them. -/
def keyParts? : (fuel : Nat) → List Char → Option (List String × List Char)
  | 0, _ => none
  | fuel + 1, cs => do
    let (part, rest) ← simpleKey? (skipBlanks cs)
    match skipBlanks rest with
    | '.' :: rest => do
      let (parts, rest) ← keyParts? fuel rest
      some (String.ofList part :: parts, rest)
    | rest => some ([String.ofList part], rest)

/-- A key: the parts before the last one, the last one, and what follows. -/
def keyPath? (cs : List Char) : Option (List String × String × List Char) := do
  let (parts, rest) ← keyParts? (cs.length + 1) cs
  let last ← parts.getLast?
  if parts.length < depthLimit then some (parts.dropLast, last, rest) else none

end LogStyle.Toml
