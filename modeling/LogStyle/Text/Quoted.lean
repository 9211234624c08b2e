import LogStyle.Text.Category
import LogStyle.Text.Trait

/-!
# Quoted texts

How an error message shows a text that a user wrote: between double quotes, with everything that
would not show, or would not show where it stands, written by its code point.
-/

namespace LogStyle.Text

/-- The categories of characters that do not show. -/
def hiddenCategories : List String := ["cc", "cf", "cs", "co", "cn", "zl", "zp", "zs"]

/-- Whether a character beyond the basic alphabet does not show on its own. -/
def isHidden (c : Char) : Bool :=
  graphemeExtendSet.mem c || !assignedSet.mem c
    || hiddenCategories.any fun name => (categorySet name).mem c

/-- A code point between braces, in base sixteen without leading zeros. -/
def codePoint (c : Char) : List Char := ['\\', 'u', '\x7b'] ++ Nat.toDigits 16 c.toNat ++ ['\x7d']

/-- One character as it is shown between double quotes. -/
def quoteChar (c : Char) : List Char :=
  match c with
  | '\x00' => ['\\', '0']
  | '\t' => ['\\', 't']
  | '\r' => ['\\', 'r']
  | '\n' => ['\\', 'n']
  | '\\' => ['\\', '\\']
  | '"' => ['\\', '"']
  | _ =>
    if c.toNat < 0x20 || c.toNat = 0x7f then codePoint c
    else if c.toNat < 0x7f then [c]
    else if isHidden c then codePoint c
    else [c]

/-- A text between double quotes. -/
def quoted (s : String) : String :=
  String.ofList ('"' :: s.toList.flatMap quoteChar ++ ['"'])

end LogStyle.Text
