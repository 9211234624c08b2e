import LogStyle.Text.Utf8
import LogStyle.Text.Wrap
import LogStyle.Violation

/-!
# Violations with their source lines

A snippet shows what is said of a violation, the lines around it with the stretch that it is about
marked, and the advice.

* `Snippet.window`: the lines that are shown, from the one before the stretch to the one after it.
* `Snippet.mark`: the rows that mark a stretch within one line.
* `Snippet.render`: the whole snippet.
-/

namespace LogStyle.Snippet

/-- The width of a page. -/
def pageWidth : Nat := 78

/-- The distance of tab stops. -/
def tabWidth : Nat := 4

/-- A line of a source, with its number, its offset and its length including its end, in bytes. -/
structure Row where
  number : Nat
  offset : Nat
  length : Nat
  text : List Char
  deriving DecidableEq, Repr

/-- A stretch of a source, in bytes. -/
structure Stretch where
  offset : Nat
  length : Nat
  deriving DecidableEq, Repr

def Stretch.stop (s : Stretch) : Nat := s.offset + s.length

/-- The lines of a source with what ends them: a line feed, a carriage return, or both. -/
def brokenLines : List Char → List (List Char)
  | [] => []
  | '\r' :: '\n' :: rest => ['\r', '\n'] :: brokenLines rest
  | c :: rest =>
    if c = '\n' || c = '\r' then [c] :: brokenLines rest
    else match brokenLines rest with
      | [] => [[c]]
      | line :: lines => (c :: line) :: lines

/-- Each line with its offset. -/
def withOffsets (offset : Nat) : List (List Char) → List (Nat × List Char)
  | [] => []
  | line :: rest => (offset, line) :: withOffsets (offset + Text.byteLength line) rest

/-- The number of lines that start before or at a byte, less one. -/
def lineIndex (lines : List (Nat × List Char)) (byte : Nat) : Nat :=
  (lines.countP fun line => line.1 ≤ byte) - 1

/-- The text of a line without what ends it. -/
def bare (line : List Char) : List Char :=
  match line.reverse with
  | '\n' :: '\r' :: rest => rest.reverse
  | '\n' :: rest => rest.reverse
  | _ => line

/-- Joins each line that ends in a carriage return alone with the next one. -/
def joinReturns : List (List Char) → List (List Char)
  | [] => []
  | line :: rest =>
    match joinReturns rest with
    | [] => [line]
    | next :: others =>
      if line.getLast? = some '\r' then (line ++ next) :: others else line :: next :: others

/-- Numbers lines. -/
def rowsOf (number offset : Nat) : List (List Char) → List Row
  | [] => []
  | line :: rest =>
    let length := Text.byteLength line
    ⟨number, offset, length, bare line⟩ :: rowsOf (number + 1) (offset + length) rest

/-- The lines that are shown: from the one before a stretch to the one after it. -/
def window (source : List Char) (s : Stretch) : List Row :=
  let lines := withOffsets 0 (brokenLines source)
  let first := lineIndex lines s.offset - 1
  let last := lineIndex lines (s.stop - 1) + 1
  let shown := (lines.take (last + 1)).drop first
  rowsOf (first + 1) ((shown.head?.map (·.1)).getD 0) (joinReturns (shown.map (·.2)))

/-- Where a stretch starts: its line and column, from 1, the column in bytes. -/
def place (source : List Char) (s : Stretch) : Nat × Nat :=
  let lines := withOffsets 0 (brokenLines source)
  let index := lineIndex lines s.offset
  (index + 1, s.offset - ((lines[index]?.map (·.1)).getD 0) + 1)

/-- The columns that each character takes, given the column that is reached. A tab goes to the next
stop, and nothing is shown of an escape sequence. -/
def widths (column : Nat) (escaped : Bool) : List Char → List Nat
  | [] => []
  | c :: rest =>
    if escaped then 0 :: widths column (c ≠ 'm') rest
    else if c = '\x1b' then 0 :: widths column true rest
    else
      let width := if c = '\t' then tabWidth - column % tabWidth else Text.width c
      width :: widths (column + width) false rest

def spaces (n : Nat) : String := String.ofList (List.replicate n ' ')

def dashes (n : Nat) : String := String.ofList (List.replicate n '─')

/-- A line with its tabs as spaces. -/
def expand (text : List Char) : String :=
  String.join ((text.zip (widths 0 false text)).map fun (c, width) =>
    if c = '\t' then spaces width else c.toString)

/-- The column of a byte of a line; one after the end counts as one column after the end. -/
def column (row : Row) (byte : Nat) : Nat :=
  let within := byte - row.offset
  let front := (Text.splitBytes? within row.text).map (·.1)
  let total := (widths 0 false (front.getD row.text)).foldl (· + ·) 0
  if Text.byteLength row.text < within then total + 1 else total

/-- Whether a stretch lies within one line. -/
def within (row : Row) (s : Stretch) : Bool :=
  row.offset ≤ s.offset && s.stop ≤ row.offset + row.length

/-- What stands in the margin of a line for a stretch of several lines. -/
def margin (row : Row) (s : Stretch) : String :=
  let stop := row.offset + row.length
  if row.offset ≤ s.offset && s.offset < stop then "╭─▶ "
  else if s.offset < row.offset && row.offset < s.stop && s.stop ≤ stop then "├─▶ "
  else if s.offset < row.offset && stop < s.stop then "│   "
  else spaces 4

/-- Whether a stretch of several lines ends in a line. -/
def endsIn (row : Row) (s : Stretch) : Bool :=
  s.offset < row.offset && row.offset < s.stop && s.stop ≤ row.offset + row.length

/-- A row with a line number. -/
def numbered (digits : Nat) (row : Row) (text : String) : String :=
  let number := toString row.number
  " " ++ spaces (digits - number.length) ++ number ++ " │ " ++ text

/-- A row without a line number. -/
def unnumbered (digits : Nat) (text : String) : String :=
  " " ++ spaces digits ++ " · " ++ text

/-- The rows that mark a stretch within one line, with its label. -/
def mark (row : Row) (s : Stretch) (label : String) : List String :=
  let start := column row s.offset
  let stop := max (column row s.stop) (start + 1)
  let middle := (start + stop) / 2
  [spaces start ++ dashes (middle - start) ++ "┬" ++ dashes (stop - middle - 1),
    spaces middle ++ "╰── " ++ label]

/-- The rows for a line of the window. -/
def rowsFor (digits : Nat) (single : Bool) (s : Stretch) (label : String) (row : Row) :
    List String :=
  if single then
    numbered digits row (expand row.text)
      :: if within row s then (mark row s label).map (unnumbered digits) else []
  else
    numbered digits row (margin row s ++ expand row.text)
      :: if endsIn row s then [unnumbered digits ("╰──── " ++ label)] else []

/-- The source lines of a violation, framed. -/
def frame (file : String) (source : List Char) (s : Stretch) (label : String) : List String :=
  let rows := window source s
  let digits := (toString ((rows.getLast?.map (·.number)).getD 0)).length
  let (line, column) := place source s
  let head := spaces (digits + 2) ++ "╭─[" ++ file ++ ":" ++ toString line ++ ":" ++ toString column
    ++ "]"
  let single := rows.any (within · s)
  head :: rows.flatMap (rowsFor digits single s label) ++ [spaces (digits + 2) ++ "╰────"]

/-- The lines of a snippet. Without a source only the texts are shown. -/
def lines (v : Violation) (source : Option String) : List String :=
  let notice := v.notice
  Text.fill pageWidth "  × " "  │ " notice.message.toList
    ++ (match source with
      | some text =>
        frame v.location.file text.toList ⟨notice.offset, notice.length⟩ notice.label
      | none => [])
    ++ (match notice.help with
      | some help => Text.fill pageWidth "  help: " "        " help.toList
      | none => [])

/-- A snippet, each line ended. -/
def render (v : Violation) (source : Option String) : String :=
  String.join ((lines v source).map (· ++ "\n"))

end LogStyle.Snippet
