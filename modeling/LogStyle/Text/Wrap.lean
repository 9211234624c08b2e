import LogStyle.Text.LineBreak
import LogStyle.Text.WordChar

/-!
# Wrapping a text into lines

A text is cut into words, which are put into lines as long as they fit. A word that is too long for
a line is cut.

* `Word`: a piece of a text that stays together, with the blanks after it.
* `wordsToWrap`: the words of a text.
* `fill`: the lines of a text, each with its indent.
-/

namespace LogStyle.Text

/-- A piece of a text that stays together, with the blanks after it. -/
structure Word where
  text : List Char
  blanks : List Char
  deriving DecidableEq, Repr

/-- A piece as a word: the spaces at its end are its blanks. -/
def Word.ofPiece (piece : List Char) : Word :=
  let text := (piece.reverse.dropWhile (· = ' ')).reverse
  ⟨text, piece.drop text.length⟩

/-- Joins a piece that ends in a hyphen with the next one: hyphens are looked at on their own. -/
def joinHyphens : List (List Char) → List (List Char)
  | [] => []
  | piece :: rest =>
    match joinHyphens rest with
    | [] => [piece]
    | next :: others =>
      if piece.getLast? = some '-' || piece.getLast? = some '\xad' then (piece ++ next) :: others
      else piece :: next :: others

def isAlphanumeric (c : Char) : Bool := isWordChar c && c ≠ '_'

/-- Cuts after each hyphen that stands between letters or digits, given the part so far in
reverse. -/
def cutHyphens (part : List Char) : List Char → List (List Char)
  | [] => [part.reverse]
  | c :: rest =>
    if c = '-' && part.head?.any isAlphanumeric && rest.head?.any isAlphanumeric then
      (c :: part).reverse :: cutHyphens [] rest
    else cutHyphens (c :: part) rest

/-- Cuts into parts that are no wider than a limit, given the part so far in reverse and its
width. -/
def cutWide (limit : Nat) (part : List Char) (wide : Nat) : List Char → List (List Char)
  | [] => if part.isEmpty then [] else [part.reverse]
  | c :: rest =>
    if 0 < wide && limit < wide + width c then
      part.reverse :: cutWide limit [c] (width c) rest
    else cutWide limit (c :: part) (wide + width c) rest

/-- Words for the parts of a word; the last one keeps the blanks. -/
def Word.ofParts (parts : List (List Char)) (blanks : List Char) : List Word :=
  match parts.getLast? with
  | none => []
  | some last => parts.dropLast.map (⟨·, []⟩) ++ [⟨last, blanks⟩]

/-- The words of a text, none wider than a limit. -/
def wordsToWrap (limit : Nat) (text : List Char) : List Word :=
  let words := (joinHyphens (pieces text)).map Word.ofPiece
  let split := words.flatMap fun w => Word.ofParts (cutHyphens [] w.text) w.blanks
  split.flatMap fun w =>
    if limit < totalWidth w.text then Word.ofParts (cutWide limit [] 0 w.text) w.blanks else [w]

/-- The text of a line: the blanks at its end do not count. -/
def lineOf : List Word → List Char
  | [] => []
  | [w] => w.text
  | w :: rest => w.text ++ w.blanks ++ lineOf rest

/-- Puts words into lines as long as they fit, given the words of the current line in reverse and
their width. -/
def fitLines (limit : Nat) (line : List Word) (used : Nat) : List Word → List (List Char)
  | [] => [lineOf line.reverse]
  | w :: rest =>
    let grown := totalWidth w.text + totalWidth w.blanks
    if limit < used + totalWidth w.text && !line.isEmpty then
      lineOf line.reverse :: fitLines limit [w] grown rest
    else fitLines limit (w :: line) (used + grown) rest

/-- A text in lines of a given width, the first with one indent and the others with another, both of
one width. -/
def fill (columns : Nat) (first others : String) (text : List Char) : List String :=
  let limit := columns - totalWidth first.toList
  match fitLines limit [] 0 (wordsToWrap limit text) with
  | [] => []
  | line :: lines =>
    (first ++ String.ofList line) :: lines.map fun line => others ++ String.ofList line

end LogStyle.Text
