import LogStyle.Text.Blank

/-!
# Decorations in messages

Exclamation and question marks, ellipses and emoji.

* `Special.occurs`: whether a text has any of them.
* `Special.strip`: the text without them, its blanks normalized.
-/

namespace LogStyle.Special

/-- `!`, `?` and the ellipsis character. -/
def isMark (c : Char) : Bool := c = '!' || c = '?' || c = '\u2026'

/-- Pictographs, dingbats and weather symbols, and the selector of emoji presentation. -/
def isEmoji (c : Char) : Bool :=
  (0x1f300 ≤ c.toNat && c.toNat ≤ 0x1faff) || (0x2600 ≤ c.toNat && c.toNat ≤ 0x27bf)
    || c.toNat = 0xfe0f

def isSpecial (c : Char) : Bool := isMark c || isEmoji c

/-- Whether three dots follow each other. -/
def hasEllipsis : List Char → Bool
  | [] => false
  | c :: rest => ['.', '.', '.'].isPrefixOf (c :: rest) || hasEllipsis rest

/-- Whether a text has a decoration. -/
def occurs (text : List Char) : Bool := hasEllipsis text || text.any isSpecial

/-- Removes three dots at a time, from left to right. -/
def dropEllipses : List Char → List Char
  | '.' :: '.' :: '.' :: rest => dropEllipses rest
  | c :: rest => c :: dropEllipses rest
  | [] => []

/-- The words of a text with one space between them. -/
def unwords (words : List (List Char)) : List Char := words.intersperse [' '] |>.flatten

/-- The text without decorations, with single spaces between its words. Characters go before
ellipses, so that dots which only removed characters separate count as one run. -/
def strip (text : List Char) : List Char :=
  unwords (Text.words (dropEllipses (text.filter (!isSpecial ·))))

end LogStyle.Special
