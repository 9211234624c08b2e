import LogStyle.Text.WordChar

/-!
# Regular expressions and where they match

An expression is matched leftmost-first: of two alternatives the one written first is preferred,
and a greedy repetition prefers one more round. `Regex.ends` lists the places where a match that
starts at a given place may end, the preferred one first. Nothing that follows depends on how a
place was reached, so a place that is listed once need not be listed again.

* `Cursor`: a place in a text, with the character before it.
* `Assertion.holds`: what an assertion asks of a place.
* `Regex.ends`: the ends of matches from a place, in order of preference.
* `Regex.weight`: an estimate of the memory that a compiled expression takes.
-/

namespace LogStyle.Pattern

/-- A place in a text: how many characters stand before it, the last of them, and the rest. -/
structure Cursor where
  pos : Nat
  before : Option Char
  rest : List Char
  deriving DecidableEq, Repr

/-- Conditions on a place that consume nothing. -/
inductive Assertion where
  | textStart
  | textEnd
  | lineStart
  | lineEnd
  /-- Start and end of a line where a carriage return also ends a line. -/
  | lineStartCrlf
  | lineEndCrlf
  | wordBoundary (word : CodeSet)
  | notWordBoundary (word : CodeSet)
  | wordStart (word : CodeSet)
  | wordEnd (word : CodeSet)
  | wordStartHalf (word : CodeSet)
  | wordEndHalf (word : CodeSet)
  deriving DecidableEq, Repr

/-- A regular expression. The repetition counts are a least and, if there is one, a greatest. -/
inductive Regex where
  | empty
  | chars (set : CodeSet)
  | check (assertion : Assertion)
  | cat (first second : Regex)
  | alt (first second : Regex)
  | rep (body : Regex) (least : Nat) (most : Option Nat) (greedy : Bool)
  deriving DecidableEq, Repr

/-- Any number of characters of a set. -/
def Regex.many (set : CodeSet) : Regex := .rep (.chars set) 0 none true

/-- One expression after the other. -/
def Regex.sequence (rs : List Regex) : Regex := rs.foldr .cat .empty

/-- One given character. -/
def Regex.char (c : Char) : Regex := .chars (.singleton c.toNat)

/-- Whether there is a character and it belongs to a set. -/
def isIn (set : CodeSet) (c : Option Char) : Bool := c.any set.mem

def Assertion.holds (c : Cursor) : Assertion → Bool
  | textStart => c.before.isNone
  | textEnd => c.rest.isEmpty
  | lineStart => c.before.isNone || c.before = some '\n'
  | lineEnd => c.rest.isEmpty || c.rest.head? = some '\n'
  | lineStartCrlf =>
    c.before.isNone || c.before = some '\n'
      || (c.before = some '\r' && c.rest.head? ≠ some '\n')
  | lineEndCrlf =>
    c.rest.isEmpty || c.rest.head? = some '\r'
      || (c.rest.head? = some '\n' && c.before ≠ some '\r')
  | wordBoundary word => isIn word c.before != isIn word c.rest.head?
  | notWordBoundary word => isIn word c.before == isIn word c.rest.head?
  | wordStart word => !isIn word c.before && isIn word c.rest.head?
  | wordEnd word => isIn word c.before && !isIn word c.rest.head?
  | wordStartHalf word => !isIn word c.before
  | wordEndHalf word => !isIn word c.rest.head?

/-- Adds a place at the end of a list, which is kept in reverse, unless it is listed. -/
def addPlace (out : List Cursor) (c : Cursor) : List Cursor :=
  if out.any (·.pos = c.pos) then out else c :: out

/-- Each place once, where it comes first. -/
def distinct (places : List Cursor) : List Cursor := (places.foldl addPlace []).reverse

/-- The ends of exactly `n` rounds of a step. -/
def times (step : Cursor → List Cursor) : Nat → Cursor → List Cursor
  | 0, c => [c]
  | n + 1, c => distinct ((step c).flatMap (times step n))

/-- The ends of at most `n` rounds of a step. -/
def upTo (step : Cursor → List Cursor) (greedy : Bool) : Nat → Cursor → List Cursor
  | 0, c => [c]
  | n + 1, c =>
    let more := (step c).flatMap (upTo step greedy n)
    distinct (if greedy then more ++ [c] else c :: more)

/-- The ends of any number of rounds of a step, added (in reverse) to the places already found.
A round that consumes nothing ends the repetition. The fuel bounds the rounds that consume. -/
def rounds (step : Cursor → List Cursor) (greedy : Bool) :
    (fuel : Nat) → Cursor → List Cursor → List Cursor
  | 0, c, out => addPlace out c
  | fuel + 1, c, out =>
    if out.any (·.pos = c.pos) then out
    else
      let follow := fun out next =>
        if next.pos = c.pos then addPlace out c else rounds step greedy fuel next out
      if greedy then addPlace ((step c).foldl follow out) c
      else (step c).foldl follow (addPlace out c)

/-- The ends of at least one round of a step. -/
def roundsPlus (step : Cursor → List Cursor) (greedy : Bool) (c : Cursor) : List Cursor :=
  let follow := fun out next =>
    if next.pos = c.pos then addPlace out c
    else rounds step greedy (c.rest.length + 1) next out
  ((step c).foldl follow []).reverse

/-- The places where a match that starts at `c` may end, the preferred one first. -/
def Regex.ends : Regex → Cursor → List Cursor
  | empty, c => [c]
  | chars set, c =>
    match c.rest with
    | [] => []
    | x :: rest => if set.mem x then [⟨c.pos + 1, some x, rest⟩] else []
  | check assertion, c => if assertion.holds c then [c] else []
  | cat first second, c => distinct ((first.ends c).flatMap second.ends)
  | alt first second, c => distinct (first.ends c ++ second.ends c)
  | rep body least (some most) greedy, c =>
    distinct ((times body.ends least c).flatMap (upTo body.ends greedy (most - least)))
  | rep body 0 none greedy, c =>
    (rounds body.ends greedy (c.rest.length + 1) c []).reverse
  | rep body (least + 1) none greedy, c =>
    distinct ((times body.ends least c).flatMap (roundsPlus body.ends greedy))

/-- The bytes that a compiled character class takes. -/
def classWeight (set : CodeSet) : Nat :=
  set.ranges.foldl (fun n r => n + if r.2 < 0x80 then 8 else 64) 32

/-- An estimate of the bytes that a compiled expression takes. -/
def Regex.weight : Regex → Nat
  | empty => 0
  | chars set => classWeight set
  | check _ => 32
  | cat first second => first.weight + second.weight
  | alt first second => first.weight + second.weight + 40
  | rep body least (some most) _ => body.weight * max least most + 40 * (most - least)
  | rep body least none _ => body.weight * max least 1 + 40

end LogStyle.Pattern
