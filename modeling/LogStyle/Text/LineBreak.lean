import LogStyle.Text.Category
import LogStyle.Text.Width

/-!
# Where a line may be broken

Between two characters a line may be broken or not, depending on what they are and on whether blanks
stand between them. Breaks are found for texts of one line.

* `LineClass.of`: what a character is to line breaking.
* `breaksBetween`: whether a line may be broken between two characters.
* `pieces`: a text cut wherever a line may be broken.
-/

namespace LogStyle.Text

/-- What a character is to line breaking. -/
inductive LineClass where
  | blank
  /-- A break that takes no room. -/
  | zeroWidth
  /-- A mark on the character before, and the one that joins two characters. -/
  | mark
  | joiner
  /-- Forbids breaks on both sides. -/
  | wordJoiner
  /-- Sticks to its neighbours. -/
  | glue
  /-- Allows a break after it, before it, or on both sides. -/
  | breakAfter
  | breakBefore
  | breakBoth
  | hyphen
  | closing
  | closingParenthesis
  | exclamation
  | inseparable
  | nonStarter
  | opening
  | quotation
  | separator
  | number
  | afterNumber
  | beforeNumber
  | slash
  | letter
  | ideograph
  | emojiModifier
  | syllable
  | flag
  deriving DecidableEq, Repr

/-- The classes of single characters and ranges that are not what they seem from their kind. -/
def lineClassTable : List (CodeSet × LineClass) := [
  (.parse ["20"], .blank),
  (.parse ["200b"], .zeroWidth),
  (.parse ["200d"], .joiner),
  (.parse ["0-8 b-1f 7f-9f 200c 200e-200f 202a-202e"], .mark),
  (.parse ["2060 feff"], .wordJoiner),
  (.parse ["a0 34f 2007 2011 202f"], .glue),
  (.parse ["9 7c ad 58a 5be 1680 2000-2006 2008-200a 2010 2012-2013 2027 2056 205f",
    "3000"], .breakAfter),
  (.parse ["b4 2c8 2cc 2df"], .breakBefore),
  (.parse ["2014"], .breakBoth),
  (.parse ["2d"], .hyphen),
  (.parse ["7d 2046 207e 208e 3001-3002 3009 300b 300d 300f 3011 3015 3017 3019 301b",
    "301e-301f ff09 ff0c ff0e ff3d ff5d ff60-ff61 ff63-ff64"], .closing),
  (.parse ["29 5d"], .closingParenthesis),
  (.parse ["21 3f ff01 ff1f"], .exclamation),
  (.parse ["2024-2026 22ef"], .inseparable),
  (.parse ["203c-203d 2047-2049 3005 301c 3041 3043 3045 3047 3049 3063 3083 3085 3087",
    "308e 3095-3096 309b-309e 30a0-30a1 30a3 30a5 30a7 30a9 30c3 30e3 30e5 30e7",
    "30ee 30f5-30f6 30fb-30fe ff1a-ff1b ff65 ff9e-ff9f"], .nonStarter),
  (.parse ["28 5b 7b a1 bf 201a 201e 2045 207d 208d 3008 300a 300c 300e 3010 3014 3016",
    "3018 301a 301d ff08 ff3b ff5b ff5f ff62"], .opening),
  (.parse ["22 27 ab bb 2018-2019 201b-201d 201f 2039-203a"], .quotation),
  (.parse ["2c 2e 3a-3b 37e 589 60c-60d 2044"], .separator),
  (.parse ["30-39 660-669 66b-66c 6f0-6f9 7c0-7c9 966-96f"], .number),
  (.parse ["25 a2 b0 60b 66a 2030-2037 20a7 20b6 20bb 20be 2103 2109 ff05 ffe0"], .afterNumber),
  (.parse ["24 2b 5c a3-a5 b1 20a0-20a6 20a8-20b5 20b7-20ba 20bc-20bd 20bf-20cf 2116",
    "2212-2213 ff04 ffe1 ffe5-ffe6"], .beforeNumber),
  (.parse ["2f"], .slash),
  (.parse ["1f3fb-1f3ff"], .emojiModifier),
  (.parse ["1100-11ff ac00-d7a3"], .syllable),
  (.parse ["1f1e6-1f1ff"], .flag)]

/-- The marks, by their kind. -/
def markSet : CodeSet := ((category? "m").getD .empty)

/-- What a character is to line breaking. -/
def LineClass.of (c : Char) : LineClass :=
  match lineClassTable.find? fun entry => entry.1.mem c with
  | some (_, kind) => kind
  | none =>
    if c.toNat < 0x300 then .letter
    else if markSet.mem c then .mark
    else if wideSet.mem c then .ideograph
    else .letter

/-- Whether a line may be broken before a character of class `next`. The class `last` is that of the
last character that is not a blank or a mark, and `spaced` tells whether blanks follow it. -/
def breaksBetween (last : LineClass) (spaced : Bool) (next : LineClass) : Bool :=
  let starts : List LineClass := [.closing, .closingParenthesis, .exclamation, .separator, .slash]
  let words : List LineClass := [.letter]
  let wide : List LineClass := [.ideograph, .emojiModifier]
  let pair := fun (a b : LineClass) => last = a && next = b
  if next = .blank || next = .zeroWidth then false
  else if last = .zeroWidth then true
  else if next = .wordJoiner || (last = .wordJoiner && !spaced) then false
  else if last = .glue && !spaced then false
  else if next = .glue && !spaced && last ≠ .breakAfter && last ≠ .hyphen then false
  else if starts.contains next then false
  else if last = .opening then false
  else if pair .quotation .opening then false
  else if (last = .closing || last = .closingParenthesis) && next = .nonStarter then false
  else if pair .breakBoth .breakBoth then false
  else if spaced then true
  else if next = .quotation || last = .quotation then false
  else if next = .breakAfter || next = .hyphen || next = .nonStarter then false
  else if last = .breakBefore then false
  else if next = .inseparable then false
  else if pair .letter .number || pair .number .letter then false
  else if last = .beforeNumber && wide.contains next then false
  else if wide.contains last && next = .afterNumber then false
  else if (last = .beforeNumber || last = .afterNumber) && words.contains next then false
  else if words.contains last && (next = .beforeNumber || next = .afterNumber) then false
  else if (last = .closing || last = .closingParenthesis || last = .number)
      && (next = .afterNumber || next = .beforeNumber) then false
  else if (last = .afterNumber || last = .beforeNumber) && (next = .opening || next = .number) then
    false
  else if next = .number && (last = .hyphen || last = .separator || last = .number || last = .slash)
    then false
  else if pair .syllable .afterNumber || pair .beforeNumber .syllable then false
  else if pair .letter .letter || pair .separator .letter then false
  else if (last = .letter || last = .number) && next = .opening then false
  else if last = .closingParenthesis && (next = .letter || next = .number) then false
  else if pair .ideograph .emojiModifier then false
  else true

/-- What stands before a place in a text. -/
structure BreakState where
  last : LineClass
  spaced : Bool := false
  joined : Bool := false
  /-- Whether an odd number of flag letters stands before the place. -/
  oddFlags : Bool := false

/-- Whether a line may be broken before a character, and what then stands before the next. -/
def BreakState.step (s : BreakState) (c : Char) : Bool × BreakState :=
  let kind := LineClass.of c
  if kind = .blank then (false, { s with spaced := true, joined := false })
  else if (kind = .mark || kind = .joiner) && !s.spaced && s.last ≠ .zeroWidth then
    (false, { s with joined := kind = .joiner })
  else
    let kind := if kind = .mark || kind = .joiner then .letter else kind
    let paired := kind = .flag && s.last = .flag && !s.spaced && s.oddFlags
    let allowed := !s.joined && !paired && breaksBetween s.last s.spaced kind
    (allowed, { last := kind, oddFlags := kind = .flag && !paired })

/-- Cuts the rest of a text wherever a line may be broken, given the current piece in reverse. -/
def piecesFrom (s : BreakState) (piece : List Char) : List Char → List (List Char)
  | [] => [piece.reverse]
  | c :: rest =>
    let (allowed, next) := s.step c
    if allowed then piece.reverse :: piecesFrom next [c] rest
    else piecesFrom next (c :: piece) rest

/-- A text cut wherever a line may be broken. Blanks stay with what is before them. -/
def pieces : List Char → List (List Char)
  | [] => []
  | c :: rest =>
    piecesFrom (BreakState.step { last := .wordJoiner } c).2 [c] rest

end LogStyle.Text
