import LogStyle.Text.Blank

/-!
# Messages start in lower case
-/

namespace LogStyle.Lowercase

/-- A text with its first letter in lower case: defined if the first character that is not blank is
a capital of the basic alphabet. -/
def lowered? : List Char → Option (List Char)
  | [] => none
  | c :: rest =>
    if Text.isBlank c then (lowered? rest).map (c :: ·)
    else if c.isUpper then some (c.toLower :: rest)
    else none

end LogStyle.Lowercase
