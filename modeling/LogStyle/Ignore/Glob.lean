import LogStyle.Pattern.Search
import LogStyle.Text.Utf8

/-!
# Globs of ignore files

A glob is matched against the bytes of a path. `?` stands for one byte and `*` for any number of
bytes, none of them a slash. `**` as a whole piece of a path stands for any number of directories.
Braces hold alternatives, which may be nested; brackets hold bytes and ranges; a backslash takes the
next character as it is.

* `Glob.tokens?`: the parts of a glob.
* `Glob.parse?`: the expression for a glob.
* `Glob.covers`: whether a glob covers a path.
-/

namespace LogStyle.Ignore.Glob

open LogStyle.Pattern (Regex)

/-- One part of a glob. -/
inductive Token where
  | char (c : Char)
  /-- `?` -/
  | any
  /-- `*` -/
  | star
  /-- `**` at the start: any directories. -/
  | leading
  /-- `**` at the end: whatever is below. -/
  | trailing
  /-- `**` between slashes: any directories. -/
  | between
  | set (negated : Bool) (ranges : List (Char × Char))
  /-- Alternatives, if one of them is not empty. -/
  | group (alternatives : Option Regex)
  deriving DecidableEq, Repr

/-- The bytes of a character, as characters. -/
def bytesOf (cs : List Char) : List Char := (Text.encode cs).map fun b => Char.ofNat b.toNat

/-- All bytes. -/
def anyByte : CodeSet := .range 0 255

def slash : Regex := .char '/'

/-- The bytes between brackets. A character of several bytes stands for each of them, and the last
byte of the one end of a range goes with the first byte of the other. -/
def bytesOfRange (lo hi : Char) : List (Nat × Nat) :=
  let singles := fun (cs : List Char) => cs.map fun c => (c.toNat, c.toNat)
  if lo = hi then singles (bytesOf [lo])
  else
    let (a, b) := (bytesOf [lo], bytesOf [hi])
    singles a ++ singles b
      ++ match a.getLast?, b.head? with
        | some x, some y => if x ≤ y then [(x.toNat, y.toNat)] else []
        | _, _ => []

/-- The expression for a part; an empty group has none. -/
def Token.regex? : Token → Option Regex
  | char c => some (.sequence ((bytesOf [c]).map Regex.char))
  | any => some (.chars (anyByte.diff (.singleton '/'.toNat)))
  | star => some (.many (anyByte.diff (.singleton '/'.toNat)))
  | leading => some (.alt (.alt slash .empty) (.cat (.many anyByte) slash))
  | trailing => some (.cat slash (.many anyByte))
  | between => some (.alt slash (.cat slash (.cat (.many anyByte) slash)))
  | set negated ranges =>
    let bytes := CodeSet.ofRanges (ranges.flatMap fun (lo, hi) => bytesOfRange lo hi)
    some (.chars (if negated then anyByte.diff bytes else bytes))
  | group alternatives => alternatives

/-- The expression for a list of parts, if there is anything in it. -/
def regexOf? (tokens : List Token) : Option Regex :=
  match tokens.filterMap Token.regex? with
  | [] => none
  | rs => some (.sequence rs)

/-- The expression for the alternatives that are not empty. -/
def alternatives (branches : List (List Token)) : Option Regex :=
  match branches.filterMap regexOf? with
  | [] => none
  | r :: rs => some (rs.foldl .alt r)

/-- What was found after an opening bracket. -/
inductive Bracket where
  /-- There is no closing bracket. -/
  | unclosed
  /-- The ends of a range are the wrong way round. -/
  | invalid
  | closed (ranges : List (Char × Char)) (rest : List Char)

/-- Reads what is between brackets, given the ranges so far (in reverse). A closing bracket in the
first place is an ordinary character, and so is a hyphen in the first or last place. -/
def bracket (first inRange : Bool) (ranges : List (Char × Char)) : List Char → Bracket
  | [] => .unclosed
  | c :: rest =>
    if c = ']' && !first then
      .closed ((if inRange then ('-', '-') :: ranges else ranges).reverse) rest
    else if c = '-' && !first && !inRange then bracket false true ranges rest
    else
      match inRange, ranges with
      | true, (lo, _) :: older =>
        if c < lo then .invalid else bracket false false ((lo, c) :: older) rest
      | _, _ => bracket false false ((c, c) :: ranges) rest

theorem length_bracket (first inRange : Bool) (ranges : List (Char × Char)) (cs : List Char)
    {found : List (Char × Char)} {rest : List Char}
    (h : bracket first inRange ranges cs = .closed found rest) : rest.length < cs.length := by
  induction cs generalizing first inRange ranges with
  | nil => simp [bracket] at h
  | cons c tail ih =>
    simp only [bracket] at h
    split at h
    · simp only [Bracket.closed.injEq] at h
      simp [h.2]
    · split at h
      · have := ih _ _ _ h
        simp; omega
      · split at h
        · split at h
          · simp at h
          · have := ih _ _ _ h
            simp; omega
        · have := ih _ _ _ h
          simp; omega

/-- Whether brackets begin with a mark of negation, and what follows it. -/
def negation : List Char → Bool × List Char
  | '!' :: body => (true, body)
  | '^' :: body => (true, body)
  | body => (false, body)

theorem length_negation (cs : List Char) : (negation cs).2.length ≤ cs.length := by
  unfold negation
  split <;> simp

/-- What was read of a glob: the current branch (in reverse), the groups that are open, each with
its finished branches and with what stands before it (both in reverse), the last character, and
whether a bracket was found that is never closed. -/
structure Reading where
  tokens : List Token := []
  groups : List (List (List Token) × List Token) := []
  last : Option Char := none
  unclosed : Bool := false

namespace Reading

/-- Adds a part that ends in the given character. -/
def add (s : Reading) (token : Token) (last : Char) : Reading :=
  { s with tokens := token :: s.tokens, last := some last }

def openGroup (s : Reading) : Reading :=
  { s with tokens := [], groups := ([], s.tokens) :: s.groups, last := some '\x7b' }

/-- Begins a further alternative; outside a group a comma is an ordinary character. -/
def comma (s : Reading) : Reading :=
  match s.groups with
  | [] => s.add (.char ',') ','
  | (done, before) :: groups =>
    { s with
      tokens := []
      groups := (s.tokens.reverse :: done, before) :: groups
      last := some ',' }

def closeGroup? (s : Reading) : Option Reading :=
  match s.groups with
  | [] => none
  | (done, before) :: groups =>
    some { s with
      tokens := .group (alternatives (s.tokens.reverse :: done).reverse) :: before
      groups := groups
      last := some '\x7d' }

/-- Two stars that are not a piece of the path. -/
def twoStars (s : Reading) : Reading := (s.add .star '*').add .star '*'

/-- The part for `**` after a slash takes the place of that slash, or joins with the `**` before. -/
def joinSlash (s : Reading) (token : Token) (last : Char) : Reading :=
  match s.tokens with
  | .leading :: _ => { s with last := some last }
  | .trailing :: _ => { s with last := some last }
  | _ :: before => { s with tokens := token :: before, last := some last }
  | [] => { s with last := some last }

/-- Whether a piece of the path starts here: after a slash, or at the start of an alternative. -/
def startsPiece (s : Reading) : Bool :=
  s.last = some '/' || (!s.groups.isEmpty && (s.last = some ',' || s.last = some '\x7b'))

/-- Whether what follows `**` ends the current branch. -/
def endsBranch (s : Reading) (rest : List Char) : Bool :=
  match rest with
  | [] => true
  | c :: _ => (c = ',' || c = '\x7d') && !s.groups.isEmpty

/-- Reads `**`, given what follows it. -/
def doubleStar (s : Reading) (rest : List Char) : Reading × List Char :=
  if s.tokens.isEmpty then
    match rest with
    | [] => (s.add .leading '*', [])
    | '/' :: rest => (s.add .leading '/', rest)
    | _ => (s.twoStars, rest)
  else if !s.startsPiece then (s.twoStars, rest)
  else if s.endsBranch rest then (s.joinSlash .trailing '*', rest)
  else
    match rest with
    | '/' :: rest => (s.joinSlash .between '/', rest)
    | _ => (s.twoStars, rest)

theorem length_doubleStar (s : Reading) (rest : List Char) :
    (s.doubleStar rest).2.length ≤ rest.length := by
  unfold doubleStar
  split
  · split <;> simp
  · split
    · simp
    · split
      · simp
      · split <;> simp

end Reading

/-- Reads the rest of a glob. -/
def read? (s : Reading) (cs : List Char) : Option Reading :=
  match cs with
  | [] => some s
  | '?' :: rest => read? (s.add .any '?') rest
  | '*' :: '*' :: rest =>
    have := s.length_doubleStar rest
    read? (s.doubleStar rest).1 (s.doubleStar rest).2
  | '*' :: rest => read? (s.add .star '*') rest
  | '[' :: rest =>
    if s.unclosed then read? (s.add (.char '[') '[') rest
    else
      match h : bracket true false [] (negation rest).2 with
      | .invalid => none
      | .unclosed => read? { s.add (.char '[') '[' with unclosed := true } rest
      | .closed ranges after =>
        have := length_bracket _ _ _ _ h
        have := length_negation rest
        read? (s.add (.set (negation rest).1 ranges) ']') after
  | '\x7b' :: rest => read? s.openGroup rest
  | '\x7d' :: rest => s.closeGroup?.bind fun s => read? s rest
  | ',' :: rest => read? s.comma rest
  | '\\' :: rest =>
    match rest with
    | [] => none
    | c :: rest => read? (s.add (.char c) c) rest
  | c :: rest => read? (s.add (.char c) c) rest
termination_by cs.length

/-- The parts of a glob, unless a group is left open. -/
def tokens? (text : List Char) : Option (List Token) := do
  let s ← read? {} text
  if s.groups.isEmpty then some s.tokens.reverse else none

/-- The expression for a glob. `**` alone covers everything. -/
def parse? (text : List Char) : Option Regex :=
  (tokens? text).map fun tokens =>
    if tokens = [.leading] then .many anyByte else (regexOf? tokens).getD .empty

/-- Whether a glob covers a path. -/
def covers (glob : Regex) (path : List Char) : Bool := glob.matchesWhole (bytesOf path)

end LogStyle.Ignore.Glob
