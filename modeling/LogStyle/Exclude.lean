import LogStyle.Pattern.Search

/-!
# Exclude patterns

A pattern for the paths of files that are not checked. `?` stands for any character and `*` for any
text, slashes included. `**` has to be a whole piece of the path and stands for any number of
directories, or for all the rest. Brackets hold single characters and ranges, and `!` after the
opening bracket asks for any other character.

* `Exclude.parse?`: a pattern from its text.
* `Exclude.Pattern.excludes`: whether a pattern covers a path.
-/

namespace LogStyle.Exclude

open LogStyle.Pattern (Regex)

/-- One part of a pattern. -/
inductive Part where
  /-- One character of a set. -/
  | char (set : CodeSet)
  /-- Any text. -/
  | anything
  /-- Nothing, any text that ends in a slash, or all the rest. -/
  | directories
  deriving DecidableEq, Repr

/-- A pattern, part by part. -/
structure Pattern where
  parts : List Part
  deriving DecidableEq, Repr

/-- All characters. -/
def anyChar : CodeSet := .range 0 CodeSet.lastCode

/-- The characters and ranges between brackets. A range whose ends are the wrong way round is
empty. -/
def bracketed : List Char → CodeSet
  | a :: '-' :: b :: rest =>
    if a ≤ b then (bracketed rest).insert a.toNat b.toNat else bracketed rest
  | a :: rest => (bracketed rest).insert a.toNat a.toNat
  | [] => .empty

/-- Cuts at the closing bracket, which is not looked for in the first place. -/
def closing? : List Char → Option (List Char × List Char)
  | [] => none
  | first :: rest =>
    match rest.dropWhile (· ≠ ']') with
    | [] => none
    | _ :: after => some (first :: rest.takeWhile (· ≠ ']'), after)

theorem length_closing? {cs body after : List Char} (h : closing? cs = some (body, after)) :
    after.length < cs.length := by
  cases cs with
  | nil => simp [closing?] at h
  | cons first rest =>
    simp only [closing?] at h
    split at h
    · simp at h
    · rename_i c tail hd
      have := (List.dropWhile_suffix (l := rest) (fun c => decide (c ≠ ']'))).length_le
      rw [hd] at this
      simp at h this
      simp [← h.2]
      omega

/-- The parts of a pattern. `**` is allowed only where a piece of the path may start. -/
def parts? (pieceStart : Bool) (cs : List Char) : Option (List Part) :=
  match cs with
  | [] => some []
  | '?' :: rest => (parts? false rest).map (.char anyChar :: ·)
  | '*' :: '*' :: rest =>
    if pieceStart then
      match rest with
      | [] => some [.directories]
      | '/' :: rest => (parts? true rest).map (.directories :: ·)
      | _ => none
    else none
  | '*' :: rest => (parts? false rest).map (.anything :: ·)
  | '[' :: '!' :: rest =>
    match h : closing? rest with
    | some (body, after) =>
      have := length_closing? h
      (parts? false after).map (.char (bracketed body).compl :: ·)
    | none => none
  | '[' :: rest =>
    match h : closing? rest with
    | some (body, after) =>
      have := length_closing? h
      (parts? false after).map (.char (bracketed body) :: ·)
    | none => none
  | c :: rest => (parts? (c = '/') rest).map (.char (.singleton c.toNat) :: ·)
termination_by cs.length

def parse? (text : String) : Option Pattern := (parts? true text.toList).map (⟨·⟩)

def Part.regex : Part → Regex
  | char set => .chars set
  | anything => .many anyChar
  | directories =>
    .alt .empty (.alt (.cat (.many anyChar) (.char '/')) (.cat (.many anyChar) (.check .textEnd)))

/-- Whether a pattern covers a path. -/
def Pattern.excludes (pattern : Pattern) (path : String) : Bool :=
  (Regex.sequence (pattern.parts.map Part.regex)).matchesWhole path.toList

end LogStyle.Exclude
