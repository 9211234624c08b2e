import LogStyle.Text.CodeSet

/-!
# Blank characters

The characters of the White_Space property, and the operations that look at blanks only: trimming
a text and cutting it into words.
-/

namespace LogStyle.Text

/-- The White_Space property. -/
def blankSet : CodeSet := ⟨[
  (0x9, 0xd), (0x20, 0x20), (0x85, 0x85), (0xa0, 0xa0), (0x1680, 0x1680), (0x2000, 0x200a),
  (0x2028, 0x2029), (0x202f, 0x202f), (0x205f, 0x205f), (0x3000, 0x3000)]⟩

def isBlank (c : Char) : Bool := blankSet.mem c

/-- The text without the blanks at its end. -/
def trimEnd (cs : List Char) : List Char := (cs.reverse.dropWhile isBlank).reverse

/-- The text without the blanks at both ends. -/
def trim (cs : List Char) : List Char := trimEnd (cs.dropWhile isBlank)

/-- Adds a finished word to the words that follow it, unless it is empty. -/
def addWord (word : List Char) (rest : List (List Char)) : List (List Char) :=
  if word.isEmpty then rest else word :: rest

/-- The words of a text, given the letters of the current word in reverse. -/
def wordsFrom (word : List Char) : List Char → List (List Char)
  | [] => addWord word.reverse []
  | c :: rest =>
    if isBlank c then addWord word.reverse (wordsFrom [] rest) else wordsFrom (c :: word) rest

/-- The maximal runs of characters that are not blank. -/
def words (cs : List Char) : List (List Char) := wordsFrom [] cs

/-- Trimming of a string. -/
def trimString (s : String) : String := String.ofList (trim s.toList)

end LogStyle.Text
