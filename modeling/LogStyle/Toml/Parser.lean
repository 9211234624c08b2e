import LogStyle.Toml.Text
import LogStyle.Toml.Tree

/-!
# Reading TOML documents

* `value?`: a value, at a given depth of nesting.
* `lines?`: the lines of a document.
* `parse?`: the table of a document, `none` if the text is not one.
-/

namespace LogStyle.Toml

/-- Drops blanks, line ends and comments between the elements of an array. -/
def skipLines (comment : Bool) : List Char → List Char
  | [] => []
  | '\r' :: '\n' :: rest => skipLines false rest
  | c :: rest =>
    if c = '\n' then skipLines false rest
    else if comment then (if isPlain c then skipLines true rest else c :: rest)
    else if isBlank c then skipLines false rest
    else if c = '#' then skipLines true rest
    else c :: rest

mutual

/-- A value. Arrays and tables may be nested up to a limit. -/
def value? : (fuel depth : Nat) → List Char → Option (Value × List Char)
  | 0, _, _ => none
  | fuel + 1, depth, cs =>
    match cs with
    | [] => none
    | '[' :: rest =>
      if depth + 1 < depthLimit then
        (elements? fuel (depth + 1) rest).map fun (items, rest) => (.array items, rest)
      else none
    | '\x7b' :: rest =>
      if depth + 1 < depthLimit then
        match skipBlanks rest with
        | '\x7d' :: rest => some (.table [], rest)
        | rest => (pairs? fuel (depth + 1) Item.root rest).map fun (table, rest) =>
          (table.toValue, rest)
      else none
    | c :: _ =>
      if c = '"' || c = '\'' then
        (string? cs).map fun (text, rest) => (.string (String.ofList text), rest)
      else scalarPrefix? cs

/-- The elements of an array up to its end. A comma may follow the last one. -/
def elements? : (fuel depth : Nat) → List Char → Option (List Value × List Char)
  | 0, _, _ => none
  | fuel + 1, depth, cs =>
    match skipLines false cs with
    | ']' :: rest => some ([], rest)
    | cs => do
      let (item, rest) ← value? fuel depth cs
      match skipLines false rest with
      | ',' :: rest => do
        let (items, rest) ← elements? fuel depth rest
        some (item :: items, rest)
      | ']' :: rest => some ([item], rest)
      | _ => none

/-- The entries of a table between braces, at least one, added to those before them. -/
def pairs? : (fuel depth : Nat) → Item → List Char → Option (Item × List Char)
  | 0, _, _, _ => none
  | fuel + 1, depth, table, cs => do
    let (path, key, rest) ← keyPath? cs
    match rest with
    | '=' :: rest => do
      let (v, rest) ← value? fuel depth (skipBlanks rest)
      let table ← table.assign? path key v
      match skipBlanks rest with
      | ',' :: rest => pairs? fuel depth table rest
      | '\x7d' :: rest => some (table, rest)
      | _ => none
    | _ => none

end

/-- The end of a line: blanks, a comment, and the line end or the end of the document. -/
def lineEnd? (cs : List Char) : Option (List Char) :=
  let rest := match skipBlanks cs with
    | '#' :: rest => rest.dropWhile isPlain
    | rest => rest
  if rest.isEmpty then some [] else newline? rest

/-- A header, after its first bracket: whether it opens an element of an array, the path to the
table, its key, and what follows. -/
def header? (cs : List Char) : Option (Bool × List String × String × List Char) :=
  match cs with
  | '[' :: rest => do
    let (path, key, rest) ← keyPath? rest
    match rest with
    | ']' :: ']' :: rest => some (true, path, key, rest)
    | _ => none
  | rest => do
    let (path, key, rest) ← keyPath? rest
    match rest with
    | ']' :: rest => some (false, path, key, rest)
    | _ => none

/-- The lines of a document. `current` is the path of the table that the next entries belong to. -/
def lines? : (fuel : Nat) → (current : List String) → Item → List Char → Option Item
  | 0, _, _, _ => none
  | fuel + 1, current, doc, cs =>
    match skipBlanks cs with
    | [] => some doc
    | '#' :: rest => do lines? fuel current doc (← lineEnd? ('#' :: rest))
    | '\n' :: rest => lines? fuel current doc rest
    | '\r' :: rest => do lines? fuel current doc (← newline? ('\r' :: rest))
    | '[' :: rest => do
      let (isElement, path, key, rest) ← header? rest
      let rest ← lineEnd? rest
      let doc ← if isElement then doc.openElement? path key else doc.open? path key
      lines? fuel (path ++ [key]) doc rest
    | cs => do
      let (path, key, rest) ← keyPath? cs
      match rest with
      | '=' :: rest => do
        let rest := skipBlanks rest
        let (v, rest) ← value? (2 * rest.length + 2) 0 rest
        let rest ← lineEnd? rest
        let doc ← doc.update? false
          (fun origin entries => (Item.table origin entries).assign? path key v) current
        lines? fuel current doc rest
      | _ => none

/-- The table of a document. A byte order mark may stand in front. -/
def parse? (text : String) : Option Value :=
  let cs := match text.toList with
    | '\ufeff' :: rest => rest
    | cs => cs
  (lines? (cs.length + 1) [] Item.root cs).map Item.toValue

end LogStyle.Toml
