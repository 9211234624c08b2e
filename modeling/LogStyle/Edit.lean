import LogStyle.Text.Utf8
import LogStyle.Violation

/-!
# Applying replacements

Replacements are considered by their start, those with one start in the order given. One that does
not fall on character boundaries of the text, or that starts before the end of the last accepted
one, is left out.

* `Edit.accept`: the replacements that are made.
* `Edit.apply`: the text after they are made, and which they are.
-/

namespace LogStyle.Edit

/-- The outcome of a set of replacements: the new text and the indices of those that were made, in
increasing order. -/
structure Outcome where
  text : String
  applied : List Nat
  deriving DecidableEq, Repr

/-- How many of a number of replacements were left out. -/
def Outcome.skipped (o : Outcome) (total : Nat) : Nat := total - o.applied.length

/-- The byte after the last one that a location covers. -/
def stop (l : Location) : Nat := l.offset + l.length

/-- Whether a location falls on character boundaries of a text. -/
def fits (source : List Char) (l : Location) : Bool :=
  (Text.slice? l.offset (stop l) source).isSome

/-- Replacements with their indices, by their start. -/
def inOrder (replacements : List Replacement) : List (Replacement × Nat) :=
  replacements.zipIdx.mergeSort fun a b => a.1.location.offset ≤ b.1.location.offset

/-- The replacements that are made, of those given by their start, where `covered` is the end of the
last accepted one. -/
def accept (source : List Char) (covered : Nat) :
    List (Replacement × Nat) → List (Replacement × Nat)
  | [] => []
  | (r, index) :: rest =>
    if fits source r.location && covered ≤ r.location.offset then
      (r, index) :: accept source (stop r.location) rest
    else accept source covered rest

/-- A text with one stretch replaced, if the stretch falls on character boundaries. -/
def splice (text : List Char) (r : Replacement) : List Char :=
  match Text.splitBytes? r.location.offset text, Text.splitBytes? (stop r.location) text with
  | some (front, _), some (_, back) => front ++ r.newText.toList ++ back
  | _, _ => text

/-- Makes the replacements that can be made together. They are made from the last to the first, so
that the place of one does not depend on the others. -/
def apply (source : String) (replacements : List Replacement) : Outcome :=
  let accepted := accept source.toList 0 (inOrder replacements)
  { text := String.ofList (accepted.foldr (fun (r, _) text => splice text r) source.toList)
    applied := (accepted.map (·.2)).mergeSort }

end LogStyle.Edit
