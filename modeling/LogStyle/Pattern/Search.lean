import LogStyle.Pattern.Regex

/-!
# Searching and replacing

A search goes from left to right and takes, at the first place where the expression matches, the
preferred match. Replacement goes on after each match; an empty match right after a match does not
count.
-/

namespace LogStyle.Pattern

/-- The preferred match at a place, given by its end. -/
def Regex.matchAt? (r : Regex) (c : Cursor) : Option Cursor := (r.ends c).head?

/-- Whether the expression matches somewhere in the rest of a text. -/
def Regex.matchesFrom (r : Regex) (pos : Nat) (before : Option Char) : List Char → Bool
  | [] => (r.matchAt? ⟨pos, before, []⟩).isSome
  | c :: rest =>
    (r.matchAt? ⟨pos, before, c :: rest⟩).isSome || r.matchesFrom (pos + 1) (some c) rest

/-- Whether the expression matches somewhere in a text. -/
def Regex.isMatch (r : Regex) (text : List Char) : Bool := r.matchesFrom 0 none text

/-- Whether the expression matches the whole of a text. -/
def Regex.matchesWhole (r : Regex) (text : List Char) : Bool :=
  (r.ends ⟨0, none, text⟩).any (·.rest.isEmpty)

/-- Replaces the matches in the rest of a text. The next `skip` characters belong to a match that
is already replaced; `last` is where the last match ended. -/
def Regex.replaceFrom (r : Regex) (token : List Char) (pos : Nat) (before : Option Char)
    (skip : Nat) (last : Option Nat) : List Char → List Char
  | [] =>
    if skip = 0 && (r.matchAt? ⟨pos, before, []⟩).isSome && last ≠ some pos then token else []
  | c :: rest =>
    if skip > 0 then r.replaceFrom token (pos + 1) (some c) (skip - 1) last rest
    else match r.matchAt? ⟨pos, before, c :: rest⟩ with
      | none => c :: r.replaceFrom token (pos + 1) (some c) 0 last rest
      | some stop =>
        if pos < stop.pos then
          token ++ r.replaceFrom token (pos + 1) (some c) (stop.pos - pos - 1) (some stop.pos) rest
        else if last = some pos then c :: r.replaceFrom token (pos + 1) (some c) 0 last rest
        else token ++ c :: r.replaceFrom token (pos + 1) (some c) 0 (some pos) rest

/-- A text with every match replaced by a token. -/
def Regex.replaceAll (r : Regex) (token text : List Char) : List Char :=
  r.replaceFrom token 0 none 0 none text

end LogStyle.Pattern
