import LogStyle.Go.Parser
import LogStyle.Proofs.Codec

/-!
# Texts by their bytes

A text is stored as its bytes, and a character is looked up by its place. To evaluate all characters
takes time that grows with the square of the length, but the bytes can be decoded one after the other.

* `Text.decode?_toByteArray`: the characters of a text, decoded from its bytes.
* `Go.Tree.ofSource?_eq`: the syntax tree of a file, in a form that is fast to evaluate.
-/

namespace LogStyle

namespace Text

theorem decode?_toByteArray (s : String) : decode? s.toByteArray.data.toList = some s.toList := by
  have hbytes : s.toByteArray.data.toList = encode s.toList := by
    rw [← String.utf8Encode_toList, List.utf8Encode, encode]
    simp
  rw [hbytes, decode?_encode]

end Text

namespace Go

/-- The syntax tree of a file, read from its bytes. -/
theorem Tree.ofSource?_eq (source : String) : Tree.ofSource? source =
    (Text.decode? source.toByteArray.data.toList).bind fun cs =>
      (tokensFrom? (cs.length + 1) Position.first false cs).bind fun tokens =>
        (Parser.sourceFile (8 * tokens.length + 16) ⟨Position.first, tokens⟩).bind
          fun (tree, input) => if input.rest.isEmpty then some tree else none := by
  rw [Text.decode?_toByteArray]
  rfl

end Go

end LogStyle
