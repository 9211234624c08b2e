/-!
# Cutting a text at a mark

* `split`: the pieces of a text between the occurrences of a mark.
* `join`: the text that is made of pieces with a mark between them.
* `join_split`: cutting a text and joining the pieces gives the text back.
-/

namespace LogStyle.Text

/-- The pieces of a text between the occurrences of a mark; there is always one more than marks. -/
def split (mark : Char) : List Char → List (List Char)
  | [] => [[]]
  | c :: rest =>
    match split mark rest with
    | [] => [[c]]
    | piece :: pieces => if c = mark then [] :: piece :: pieces else (c :: piece) :: pieces

/-- Pieces with a mark between them. -/
def join (mark : Char) : List (List Char) → List Char
  | [] => []
  | [piece] => piece
  | piece :: pieces => piece ++ mark :: join mark pieces

theorem split_ne_nil (mark : Char) (cs : List Char) : split mark cs ≠ [] := by
  cases cs with
  | nil => simp [split]
  | cons c rest =>
    unfold split
    split
    · simp
    · split <;> simp

/-- **Cutting a text and joining the pieces gives the text back.** -/
theorem join_split (mark : Char) (cs : List Char) : join mark (split mark cs) = cs := by
  induction cs with
  | nil => rfl
  | cons c rest ih =>
    unfold split
    split
    · rename_i h
      exact absurd h (split_ne_nil mark rest)
    · rename_i piece pieces h
      rw [h] at ih
      split
      · rename_i hc
        simp [join, ih, hc]
      · cases pieces with
        | nil => simpa [join] using ih
        | cons next others => simpa [join] using ih

/-- No piece holds the mark. -/
theorem not_mem_of_mem_split {mark : Char} {cs piece : List Char} (h : piece ∈ split mark cs) :
    mark ∉ piece := by
  induction cs generalizing piece with
  | nil => simp [split] at h; simp [h]
  | cons c rest ih =>
    unfold split at h
    split at h
    · rename_i hs
      exact absurd hs (split_ne_nil mark rest)
    · rename_i first pieces hs
      rw [hs] at ih
      split at h
      · rcases List.mem_cons.1 h with rfl | h
        · simp
        · exact ih h
      · rename_i hc
        rcases List.mem_cons.1 h with rfl | h
        · have := @ih first List.mem_cons_self
          simp [this, Ne.symm hc]
        · exact ih (List.mem_cons_of_mem _ h)

/-- The pieces of a string. -/
def splitString (mark : Char) (s : String) : List String := (split mark s.toList).map String.ofList

/-- Strings with a mark between them. -/
def joinStrings (mark : Char) (pieces : List String) : String :=
  String.ofList (join mark (pieces.map String.toList))

end LogStyle.Text
