import LogStyle.Pattern.Regex
import LogStyle.Text.Blank
import LogStyle.Text.CaseFold
import LogStyle.Text.Category
import LogStyle.Text.Digits
import LogStyle.Text.Script
import LogStyle.Text.Trait

/-!
# Reading regular expressions

The notation has no look-around and no back-references. Letters match in any case unless the flag
`i` is switched off, and the classes are those of Unicode unless the flag `u` is.

* `Flags`: what may be switched inside an expression; a group restores the flags that it found.
* `escape?`: what follows a backslash.
* `classBody?`: a bracketed class, with nested classes and the set operators.
* `branches?`: alternatives up to the end of a group.
* `parse?`, `ofText?`: an expression from its text, `none` if the text is not one or it compiles to
  too much.
-/

namespace LogStyle.Pattern

/-- The switches of an expression. -/
structure Flags where
  ignoreCase : Bool
  multiLine : Bool
  dotAll : Bool
  swapGreed : Bool
  unicode : Bool
  crlf : Bool
  verbose : Bool
  deriving DecidableEq, Repr

/-- Expressions start with case ignored and with Unicode classes. -/
def Flags.initial : Flags := ⟨true, false, false, false, true, false, false⟩

def Flags.set (flags : Flags) (letter : Char) (on : Bool) : Option Flags :=
  match letter with
  | 'i' => some { flags with ignoreCase := on }
  | 'm' => some { flags with multiLine := on }
  | 's' => some { flags with dotAll := on }
  | 'U' => some { flags with swapGreed := on }
  | 'u' => some { flags with unicode := on }
  | 'R' => some { flags with crlf := on }
  | 'x' => some { flags with verbose := on }
  | _ => none

/-- Drops blanks and comments. -/
def skipVerbose (inComment : Bool) : List Char → List Char
  | [] => []
  | c :: rest =>
    if inComment then skipVerbose (c ≠ '\n') rest
    else if Text.isBlank c then skipVerbose false rest
    else if c = '#' then skipVerbose true rest
    else c :: rest

/-- What remains once blanks and comments are dropped, where the notation ignores them. -/
def Flags.skip (flags : Flags) (cs : List Char) : List Char :=
  if flags.verbose then skipVerbose false cs else cs

/-! ## Classes -/

/-- Word characters of the basic alphabet. -/
def asciiWordSet : CodeSet := ⟨[(0x30, 0x39), (0x41, 0x5a), (0x5f, 0x5f), (0x61, 0x7a)]⟩

def Flags.word (flags : Flags) : CodeSet := if flags.unicode then Text.wordSet else asciiWordSet

/-- Letters of the basic alphabet in either case. -/
def foldAscii (s : CodeSet) : CodeSet :=
  (List.range 26).foldl
    (fun t k =>
      if s.contains (65 + k) || s.contains (97 + k) then
        (t.insert (65 + k) (65 + k)).insert (97 + k) (97 + k)
      else t)
    s

/-- A set closed under case, where case is ignored. -/
def Flags.fold (flags : Flags) (s : CodeSet) : CodeSet :=
  if flags.ignoreCase then (if flags.unicode then Text.foldCase s else foldAscii s) else s

/-- A class may be negated or go beyond the basic alphabet only with Unicode classes on. -/
def Flags.admits (flags : Flags) (s : CodeSet) : Bool :=
  flags.unicode || s.ranges.all (·.2 < 0x80)

/-- A set or its complement. -/
def negateIf (negated : Bool) (s : CodeSet) : CodeSet := if negated then s.compl else s

/-- The set of one character, in either case where case is ignored. -/
def Flags.literal (flags : Flags) (c : Char) : CodeSet :=
  if flags.ignoreCase then
    if flags.unicode then CodeSet.ofRanges ((Text.caseOrbit c.toNat).map fun n => (n, n))
    else foldAscii (CodeSet.singleton c.toNat)
  else CodeSet.singleton c.toNat

/-- The classes written `\d`, `\s` and `\w`. -/
def Flags.perl? (flags : Flags) : Char → Option CodeSet
  | 'd' => some (if flags.unicode then Text.categorySet "nd" else CodeSet.range 0x30 0x39)
  | 's' => some (if flags.unicode then Text.blankSet else ⟨[(0x9, 0xd), (0x20, 0x20)]⟩)
  | 'w' => some flags.word
  | _ => none

/-- The classes written `[:name:]`. -/
def posix? : String → Option CodeSet
  | "alnum" => some ⟨[(0x30, 0x39), (0x41, 0x5a), (0x61, 0x7a)]⟩
  | "alpha" => some ⟨[(0x41, 0x5a), (0x61, 0x7a)]⟩
  | "ascii" => some ⟨[(0, 0x7f)]⟩
  | "blank" => some ⟨[(0x9, 0x9), (0x20, 0x20)]⟩
  | "cntrl" => some ⟨[(0, 0x1f), (0x7f, 0x7f)]⟩
  | "digit" => some ⟨[(0x30, 0x39)]⟩
  | "graph" => some ⟨[(0x21, 0x7e)]⟩
  | "lower" => some ⟨[(0x61, 0x7a)]⟩
  | "print" => some ⟨[(0x20, 0x7e)]⟩
  | "punct" => some ⟨[(0x21, 0x2f), (0x3a, 0x40), (0x5b, 0x60), (0x7b, 0x7e)]⟩
  | "space" => some ⟨[(0x9, 0xd), (0x20, 0x20)]⟩
  | "upper" => some ⟨[(0x41, 0x5a)]⟩
  | "word" => some asciiWordSet
  | "xdigit" => some ⟨[(0x30, 0x39), (0x41, 0x46), (0x61, 0x66)]⟩
  | _ => none

/-- A property name without case, blanks, hyphens, underscores and a leading `is`. -/
def normalizeName (name : List Char) : String :=
  let bare := (name.filter fun c => c ≠ ' ' ∧ c ≠ '_' ∧ c ≠ '-').map Char.toLower
  match bare with
  | 'i' :: 's' :: rest => if rest = ['c'] then "isc" else String.ofList rest
  | _ => String.ofList bare

/-- A property given by one name: a yes-or-no property, a category or a script. -/
def property? (name : List Char) : Option CodeSet :=
  let name := normalizeName name
  (Text.trait? name).or ((Text.category? name).or (Text.script? name))

/-- A property given by its name and a value. -/
def propertyValue? (name value : List Char) : Option CodeSet :=
  let value := normalizeName value
  match normalizeName name with
  | "gc" | "generalcategory" => Text.category? value
  | "sc" | "script" => Text.script? value
  | "scx" | "scriptextensions" => Text.scriptExtension? value
  | _ => none

/-- Cuts a text at the first occurrence of a separator. -/
def cutAt? (separator : List Char) : List Char → Option (List Char × List Char)
  | [] => none
  | c :: rest =>
    if separator.isPrefixOf (c :: rest) then some ([], (c :: rest).drop separator.length)
    else (cutAt? separator rest).map fun (front, back) => (c :: front, back)

/-- The set that a property between braces denotes, and whether the value is to be excluded. -/
def bracedProperty? (name : List Char) : Option (CodeSet × Bool) :=
  match cutAt? ['!', '='] name with
  | some (front, back) => (propertyValue? front back).map (·, true)
  | none =>
    match (cutAt? [':'] name).or (cutAt? ['='] name) with
    | some (front, back) => (propertyValue? front back).map (·, false)
    | none => (property? name).map (·, false)

/-! ## Escapes -/

/-- What one escape or plain character stands for. -/
inductive Atom where
  | char (c : Char)
  | set (s : CodeSet)
  | check (a : Assertion)
  deriving DecidableEq, Repr

/-- Hexadecimal digits up to a closing brace. -/
def bracedDigits? : List Char → Option (List Char × List Char)
  | [] => none
  | c :: rest =>
    if c = '\x7d' then some ([], rest)
    else if Text.isDigitIn 16 c then
      (bracedDigits? rest).map fun (digits, rest) => (c :: digits, rest)
    else none

/-- The character with the code point that hexadecimal digits give; there is at least one digit. -/
def hexChar? (digits : List Char) : Option Char :=
  if digits.isEmpty then none else Text.hexChar? digits

/-- A code point in braces, or with the given number of digits. -/
def hexEscape? (width : Nat) (cs : List Char) : Option (Char × List Char) :=
  match cs with
  | '\x7b' :: rest => do
    let (digits, rest) ← bracedDigits? rest
    (hexChar? digits).map (·, rest)
  | _ =>
    if cs.length < width then none else (hexChar? (cs.take width)).map (·, cs.drop width)

/-- Letters and hyphens up to a closing brace. -/
def boundaryName? : List Char → Option (List Char × List Char)
  | [] => none
  | c :: rest =>
    if c = '\x7d' then some ([], rest)
    else if c.isAlpha || c = '-' then
      (boundaryName? rest).map fun (name, rest) => (c :: name, rest)
    else none

/-- A word boundary, possibly of a special kind. A brace that no letter follows is left alone. -/
def wordBoundary? (word : CodeSet) (cs : List Char) : Option (Assertion × List Char) :=
  match cs with
  | '\x7b' :: c :: rest =>
    if c.isAlpha || c = '-' then do
      let (name, rest) ← boundaryName? (c :: rest)
      match String.ofList name with
      | "start" => some (.wordStart word, rest)
      | "end" => some (.wordEnd word, rest)
      | "start-half" => some (.wordStartHalf word, rest)
      | "end-half" => some (.wordEndHalf word, rest)
      | _ => none
    else some (.wordBoundary word, cs)
  | ['\x7b'] => none
  | _ => some (.wordBoundary word, cs)

/-- The characters up to a closing brace. -/
def braced? (cs : List Char) : Option (List Char × List Char) := cutAt? ['\x7d'] cs

/-- A character that stands for itself after a backslash. -/
def isEscapable (c : Char) : Bool :=
  c.toNat < 0x80 && !c.isAlphanum && c ≠ '<' && c ≠ '>'

/-- A class of the form `\p`, given what follows it. -/
def propertyEscape? (flags : Flags) (negated : Bool) (cs : List Char) :
    Option (Atom × List Char) := do
  let (found, rest) ← match cs with
    | [] => none
    | '\x7b' :: rest => do
      let (name, rest) ← braced? rest
      some (← bracedProperty? name, rest)
    | '\\' :: _ => none
    | c :: rest => some ((← property? [c], false), rest)
  if flags.unicode then some (.set (negateIf (negated != found.2) (flags.fold found.1)), rest)
  else none

/-- What follows a backslash. -/
def escape? (flags : Flags) : List Char → Option (Atom × List Char)
  | [] => none
  | c :: rest =>
    match flags.perl? c with
    | some s => some (.set s, rest)
    | none =>
      match flags.perl? c.toLower with
      | some s => if flags.unicode then some (.set s.compl, rest) else none
      | none =>
        match c with
        | 'x' => (hexEscape? 2 rest).map fun (c, rest) => (.char c, rest)
        | 'u' => (hexEscape? 4 rest).map fun (c, rest) => (.char c, rest)
        | 'U' => (hexEscape? 8 rest).map fun (c, rest) => (.char c, rest)
        | 'p' => propertyEscape? flags false rest
        | 'P' => propertyEscape? flags true rest
        | 'a' => some (.char '\x07', rest)
        | 'f' => some (.char '\x0c', rest)
        | 't' => some (.char '\t', rest)
        | 'n' => some (.char '\n', rest)
        | 'r' => some (.char '\r', rest)
        | 'v' => some (.char '\x0b', rest)
        | 'A' => some (.check .textStart, rest)
        | 'z' => some (.check .textEnd, rest)
        | 'b' => (wordBoundary? flags.word rest).map fun (a, rest) => (.check a, rest)
        | 'B' => some (.check (.notWordBoundary flags.word), rest)
        | '<' => some (.check (.wordStart flags.word), rest)
        | '>' => some (.check (.wordEnd flags.word), rest)
        | _ => if isEscapable c then some (.char c, rest) else none

/-! ## Bracketed classes -/

/-- Operators between the parts of a class, all of one precedence. -/
inductive SetOp where
  | inter
  | diff
  | symmDiff
  deriving DecidableEq, Repr

def SetOp.apply (flags : Flags) (op : SetOp) (s t : CodeSet) : CodeSet :=
  let s := flags.fold s
  let t := flags.fold t
  match op with
  | inter => s.inter t
  | diff => s.diff t
  | symmDiff => s.symmDiff t

/-- A class under construction: what stands left of the last operator, and the current union. -/
structure ClassFrame where
  negated : Bool
  left : Option (CodeSet × SetOp)
  items : CodeSet

/-- The set of the part of a class read so far. -/
def ClassFrame.value (flags : Flags) (frame : ClassFrame) : CodeSet :=
  match frame.left with
  | none => frame.items
  | some (s, op) => op.apply flags s frame.items

def ClassFrame.close (flags : Flags) (frame : ClassFrame) : CodeSet :=
  negateIf frame.negated (flags.fold (frame.value flags))

def ClassFrame.add (frame : ClassFrame) (s : CodeSet) : ClassFrame :=
  { frame with items := frame.items.union s }

def ClassFrame.operate (flags : Flags) (frame : ClassFrame) (op : SetOp) : ClassFrame :=
  { frame with left := some (frame.value flags, op), items := CodeSet.empty }

/-- Leading hyphens of a class, and a closing bracket in the first place, stand for themselves. -/
def classOpening? (flags : Flags) (items : CodeSet) : List Char → Option (CodeSet × List Char)
  | [] => none
  | c :: rest =>
    if flags.verbose && Text.isBlank c then classOpening? flags items rest
    else if c = '-' then classOpening? flags (items.insert 45 45) rest
    else if c = ']' && items.ranges.isEmpty then
      let rest := flags.skip rest
      if rest.isEmpty then none else some (items.insert 93 93, rest)
    else some (items, c :: rest)

/-- The start of a class, after its opening bracket. -/
def openClass? (flags : Flags) (cs : List Char) : Option (ClassFrame × List Char) :=
  match flags.skip cs with
  | [] => none
  | '^' :: rest =>
    (classOpening? flags CodeSet.empty rest).map fun (s, rest) => (⟨true, none, s⟩, rest)
  | cs => (classOpening? flags CodeSet.empty cs).map fun (s, rest) => (⟨false, none, s⟩, rest)

/-- A class `[:name:]`, given what follows its first bracket. -/
def posixClass? (flags : Flags) (cs : List Char) : Option (CodeSet × List Char) :=
  match cs with
  | ':' :: rest => do
    let (negated, rest) := match rest with
      | '^' :: rest => (true, rest)
      | rest => (false, rest)
    let (name, rest) ← cutAt? [':'] rest
    match rest with
    | ']' :: rest => do
      let s ← posix? (String.ofList name)
      some (negateIf negated (flags.fold s), rest)
    | _ => none
  | _ => none

/-- One end of a range, or a class on its own. -/
def classAtom? (flags : Flags) : List Char → Option (Atom × List Char)
  | [] => none
  | '\\' :: rest => escape? flags rest
  | c :: rest => some (.char c, rest)

/-- One item of a class: a range, a character or a class. -/
def classItem? (flags : Flags) (cs : List Char) : Option (CodeSet × List Char) := do
  let (first, rest) ← classAtom? flags cs
  let rest := flags.skip rest
  let alone : Option (CodeSet × List Char) := match first with
    | .char c => some (CodeSet.singleton c.toNat, rest)
    | .set s => some (s, rest)
    | .check _ => none
  match rest with
  | [] => none
  | '-' :: after =>
    let after := flags.skip after
    match after with
    | [] => none
    | ']' :: _ => alone
    | '-' :: _ => alone
    | _ => do
      let (second, rest) ← classAtom? flags after
      match first, second with
      | .char lo, .char hi =>
        if lo.toNat ≤ hi.toNat then some (CodeSet.range lo.toNat hi.toNat, rest) else none
      | _, _ => none
  | _ => alone

/-- The rest of a class. `outer` holds the classes around the current one, innermost first. -/
def classBody? (flags : Flags) :
    (fuel : Nat) → ClassFrame → (outer : List ClassFrame) → List Char →
      Option (CodeSet × List Char)
  | 0, _, _, _ => none
  | fuel + 1, frame, outer, cs =>
    match flags.skip cs with
    | [] => none
    | '[' :: rest =>
      match posixClass? flags rest with
      | some (s, rest) => classBody? flags fuel (frame.add s) outer rest
      | none => do
        let (inner, rest) ← openClass? flags rest
        classBody? flags fuel inner (frame :: outer) rest
    | ']' :: rest =>
      match outer with
      | [] => some (frame.close flags, rest)
      | around :: outer =>
        classBody? flags fuel (around.add (frame.close flags)) outer rest
    | '&' :: '&' :: rest => classBody? flags fuel (frame.operate flags .inter) outer rest
    | '-' :: '-' :: rest => classBody? flags fuel (frame.operate flags .diff) outer rest
    | '~' :: '~' :: rest => classBody? flags fuel (frame.operate flags .symmDiff) outer rest
    | cs => do
      let (s, rest) ← classItem? flags cs
      classBody? flags fuel (frame.add s) outer rest

/-! ## Repetition -/

/-- A decimal count, with blanks allowed around it. -/
def count? (cs : List Char) : Option (Nat × List Char) :=
  let cs := cs.dropWhile Text.isBlank
  let digits := cs.takeWhile Char.isDigit
  let n := digits.foldl (fun n c => n * 10 + (c.toNat - 48)) 0
  if digits.isEmpty || n > 0xffffffff then none
  else some (n, (cs.dropWhile Char.isDigit).dropWhile Text.isBlank)

/-- The bounds of a counted repetition, after its opening brace. -/
def bounds? (flags : Flags) (cs : List Char) : Option (Nat × Option Nat × List Char) := do
  let (least, rest) ← count? (flags.skip cs)
  match flags.skip rest with
  | '\x7d' :: rest => some (least, some least, rest)
  | ',' :: rest =>
    match flags.skip rest with
    | '\x7d' :: rest => some (least, none, rest)
    | rest => do
      let (most, rest) ← count? rest
      match flags.skip rest with
      | '\x7d' :: rest => if least ≤ most then some (least, some most, rest) else none
      | _ => none
  | _ => none

/-- A question mark after a repetition turns its greed around. -/
def greed (flags : Flags) (cs : List Char) : Bool × List Char :=
  match flags.skip cs with
  | '?' :: rest => (flags.swapGreed, rest)
  | _ => (!flags.swapGreed, cs)

/-! ## Groups and alternatives -/

/-- Characters of a group's name. -/
def isNameChar (first : Bool) (c : Char) : Bool :=
  c = '_' || (Text.trait? "alphabetic").any (·.mem c)
    || (!first && (c = '.' || c = '[' || c = ']' || (Text.category? "n").any (·.mem c)))

/-- A group's name up to its closing bracket. -/
def groupName? (cs : List Char) : Option (List Char × List Char) := do
  let (name, rest) ← cutAt? ['>'] cs
  match name with
  | [] => none
  | c :: more =>
    if isNameChar true c && more.all (isNameChar false) then some (name, rest) else none

/-- The switches of a group, up to a closing parenthesis (`true`) or a colon (`false`). -/
def flagSwitches? (flags : Flags) (seen : List Char) (on : Bool) (any : Bool) :
    List Char → Option (Flags × Bool × List Char)
  | [] => none
  | c :: rest =>
    if c = ')' then
      if any && (on || seen.head? ≠ some '-') then some (flags, true, rest) else none
    else if c = ':' then
      (if on || seen.head? ≠ some '-' then some (flags, false, rest) else none)
    else if c = '-' then
      (if on then flagSwitches? flags ('-' :: seen) false true rest else none)
    else if seen.contains c then none
    else do flagSwitches? (← flags.set c on) (c :: seen) on true rest

/-- Alternatives under construction: finished branches and the items of the current one, both in
reverse. An item is marked when it may be repeated. -/
structure Branches where
  done : List Regex
  items : List (Regex × Bool)

def catAll (items : List (Regex × Bool)) : Regex :=
  match items with
  | [] => .empty
  | (last, _) :: before => before.foldl (fun r item => .cat item.1 r) last

def Branches.next (b : Branches) : Branches := ⟨catAll b.items :: b.done, []⟩

def Branches.value (b : Branches) : Regex := b.done.foldl (fun r d => .alt d r) (catAll b.items)

def Branches.push (b : Branches) (r : Regex) : Branches := ⟨b.done, (r, true) :: b.items⟩

/-- Repeats the last item, if there is one that may be repeated. -/
def Branches.repeatLast? (b : Branches) (least : Nat) (most : Option Nat) (greedy : Bool) :
    Option Branches :=
  match b.items with
  | (r, true) :: before => some ⟨b.done, (.rep r least most greedy, true) :: before⟩
  | _ => none

def Atom.regex (flags : Flags) : Atom → Option Regex
  | .char c => some (.chars (flags.literal c))
  | .set s => if flags.admits s then some (.chars s) else none
  | .check a => some (.check a)

/-- Any character but a line break, unless the flag `s` is on. -/
def Flags.dot (flags : Flags) : CodeSet :=
  if flags.dotAll then CodeSet.empty.compl
  else if flags.crlf then CodeSet.compl ⟨[(10, 10), (13, 13)]⟩
  else CodeSet.compl ⟨[(10, 10)]⟩

def Flags.caret (flags : Flags) : Assertion :=
  if flags.multiLine then (if flags.crlf then .lineStartCrlf else .lineStart) else .textStart

def Flags.dollar (flags : Flags) : Assertion :=
  if flags.multiLine then (if flags.crlf then .lineEndCrlf else .lineEnd) else .textEnd

/-- How deep groups may nest. -/
def maxNesting : Nat := 250

/-- What the reading of a group has found: its expression, the names used so far and the rest. -/
structure GroupResult where
  regex : Regex
  names : List (List Char)
  rest : List Char

/-- Alternatives up to the end of the text (at depth zero) or of the group. -/
def branches? : (fuel depth : Nat) → Flags → (names : List (List Char)) → Branches → List Char →
    Option GroupResult
  | 0, _, _, _, _, _ => none
  | fuel + 1, depth, flags, names, b, cs =>
    match flags.skip cs with
    | [] => if depth = 0 then some ⟨b.value, names, []⟩ else none
    | '|' :: rest => branches? fuel depth flags names b.next rest
    | ')' :: rest => if depth = 0 then none else some ⟨b.value, names, rest⟩
    | '(' :: rest =>
      if maxNesting ≤ depth then none
      else
        let group := fun (flags : Flags) (names : List (List Char)) (rest : List Char) =>
          branches? fuel (depth + 1) flags names ⟨[], []⟩ rest
        let named := fun (rest : List Char) => do
          let (name, rest) ← groupName? rest
          if names.contains name then none else group flags (name :: names) rest
        let continueWith := fun (found : Option GroupResult) => do
          let found ← found
          branches? fuel depth flags found.names (b.push found.regex) found.rest
        match flags.skip rest with
        | '?' :: 'P' :: '<' :: rest => continueWith (named rest)
        | '?' :: '<' :: '=' :: _ => none
        | '?' :: '<' :: '!' :: _ => none
        | '?' :: '<' :: rest => continueWith (named rest)
        | '?' :: rest => do
          let (inner, closed, rest) ← flagSwitches? flags [] true false rest
          if closed then
            branches? fuel depth inner names ⟨b.done, (.empty, false) :: b.items⟩ rest
          else continueWith (group inner names rest)
        | rest => continueWith (group flags names rest)
    | '[' :: rest => do
      let (frame, rest) ← openClass? flags rest
      let (s, rest) ← classBody? flags (rest.length + 1) frame [] rest
      if flags.admits s then branches? fuel depth flags names (b.push (.chars s)) rest else none
    | '*' :: rest => do
      let (greedy, rest) := greed flags rest
      branches? fuel depth flags names (← b.repeatLast? 0 none greedy) rest
    | '+' :: rest => do
      let (greedy, rest) := greed flags rest
      branches? fuel depth flags names (← b.repeatLast? 1 none greedy) rest
    | '?' :: rest => do
      let (greedy, rest) := greed flags rest
      branches? fuel depth flags names (← b.repeatLast? 0 (some 1) greedy) rest
    | '\x7b' :: rest => do
      let (least, most, rest) ← bounds? flags rest
      let (greedy, rest) := greed flags rest
      branches? fuel depth flags names (← b.repeatLast? least most greedy) rest
    | '.' :: rest =>
      if flags.unicode then branches? fuel depth flags names (b.push (.chars flags.dot)) rest
      else none
    | '^' :: rest => branches? fuel depth flags names (b.push (.check flags.caret)) rest
    | '$' :: rest => branches? fuel depth flags names (b.push (.check flags.dollar)) rest
    | '\\' :: rest => do
      let (atom, rest) ← escape? flags rest
      let r ← atom.regex flags
      branches? fuel depth flags names (b.push r) rest
    | c :: rest =>
      branches? fuel depth flags names (b.push (.chars (flags.literal c))) rest

/-- The memory that a compiled expression may take. -/
def weightLimit : Nat := 10 * 1024 * 1024

/-- An expression from its text. -/
def parse? (text : List Char) : Option Regex := do
  let found ← branches? (text.length + 1) 0 Flags.initial [] ⟨[], []⟩ text
  if found.regex.weight ≤ weightLimit then some found.regex else none

@[inherit_doc parse?]
def ofText? (text : String) : Option Regex := parse? text.toList

end LogStyle.Pattern
