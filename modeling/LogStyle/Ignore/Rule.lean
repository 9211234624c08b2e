import LogStyle.FileSystem
import LogStyle.Ignore.Glob
import LogStyle.Text.Blank

/-!
# Ignore files

An ignore file says, line by line, which paths below its directory are left out and which are kept
after all. The last line that covers a path decides.

* `Ignore.Rule.ofLine?`: the rule of a line.
* `Ignore.rulesOf`: the rules of a file.
* `Ignore.verdict?`: what the rules say of a path.
* `Ignore.relative`: a path as seen from the directory of an ignore file.
-/

namespace LogStyle.Ignore

/-- What is said of a path. -/
inductive Verdict where
  | ignored
  | kept
  deriving DecidableEq, Repr

/-- The rule of one line. -/
structure Rule where
  verdict : Verdict
  /-- Whether it is about directories only. -/
  onlyDirectories : Bool
  glob : Pattern.Regex
  deriving DecidableEq, Repr

/-- A line without the blanks at its end, unless the last of them is escaped. -/
def trimLine (cs : List Char) : List Char :=
  if ['\\', ' '] <:+ cs then cs else Text.trimEnd cs

/-- The mark of a kept path and the slash that ties a glob to the directory, and what follows them.
An escaped first character is an ordinary one. -/
def marks : List Char → Verdict × Bool × List Char
  | '\\' :: '!' :: rest => (.ignored, false, '!' :: rest)
  | '\\' :: '#' :: rest => (.ignored, false, '#' :: rest)
  | '!' :: '/' :: rest => (.kept, true, rest)
  | '!' :: rest => (.kept, false, rest)
  | '/' :: rest => (.ignored, true, rest)
  | rest => (.ignored, false, rest)

/-- Whether a slash at the end asks for a directory, and what stands before it. -/
def directoryMark (cs : List Char) : Bool × List Char :=
  match cs.reverse with
  | '/' :: '\\' :: rest => (true, rest.reverse)
  | '/' :: rest => (true, rest.reverse)
  | _ => (false, cs)

/-- The glob that is matched: one without a slash may match in any directory, and one for all that
is below a directory does not match the directory. -/
def widen (anchored : Bool) (cs : List Char) : List Char :=
  let deep := "**/".toList
  let wide :=
    if anchored || cs.contains '/' || deep <+: cs || cs = "**".toList then cs else deep ++ cs
  if "/**".toList <:+ wide then wide ++ "/*".toList else wide

/-- The rule of a line. Comments, blank lines and lines without a valid glob have none. -/
def Rule.ofLine? (line : List Char) : Option Rule := do
  if line.head? = some '#' then none
  let cs := trimLine line
  if cs.isEmpty then none
  let (verdict, anchored, cs) := marks cs
  let (onlyDirectories, cs) := directoryMark cs
  let glob ← Glob.parse? (widen anchored cs)
  some ⟨verdict, onlyDirectories, glob⟩

/-- The lines of a list, which end at a mark; nothing follows the last mark. -/
def linesOf [DecidableEq α] (mark : α) : List α → List (List α)
  | [] => []
  | a :: rest =>
    if a = mark then [] :: linesOf mark rest
    else match linesOf mark rest with
      | [] => [[a]]
      | line :: lines => (a :: line) :: lines

/-- A line without the carriage return at its end. -/
def dropReturn (line : List Char) : List Char :=
  if line.getLast? = some '\r' then line.dropLast else line

/-- The lines of a file, up to the first one that is no text. -/
def lines (content : Content) : List (List Char) :=
  let decoded := match content with
    | .text s => linesOf '\n' s.toList
    | .binary bytes =>
      (((linesOf 10 bytes).map Text.decode?).takeWhile Option.isSome).filterMap id
  decoded.map dropReturn

/-- The rules of a file. Marks of the byte order at the start do not count. -/
def rulesOf (content : Content) : List Rule :=
  match lines content with
  | [] => []
  | first :: rest => (first.dropWhile (· = '\ufeff') :: rest).filterMap Rule.ofLine?

/-- What a list of rules says of a path: the last rule that covers it decides. -/
def verdict? (rules : List Rule) (path : List Char) (isDirectory : Bool) : Option Verdict :=
  (rules.reverse.find? fun rule =>
    (isDirectory || !rule.onlyDirectories) && Glob.covers rule.glob path).map (·.verdict)

/-- A text without `./` in front. -/
def dropHere : List Char → List Char
  | '.' :: '/' :: rest => rest
  | cs => cs

/-- A path as seen from a directory. The path of the directory is taken off only as a text, and not
at all from a bare name or for the current directory. -/
def relative (directory path : List Char) : List Char :=
  let base := dropHere directory
  let path := dropHere (dropHere path)
  if Path.same (String.ofList base) "." || !path.contains '/' then path
  else match base.isPrefixOf? path with
    | some ('/' :: rest) => rest
    | some rest => rest
    | none => path

end LogStyle.Ignore
