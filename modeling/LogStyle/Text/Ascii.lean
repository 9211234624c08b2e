/-!
# Case of the basic alphabet
-/

namespace LogStyle.Text

/-- A text in lower case, as far as the basic alphabet goes. -/
def lowercase (text : String) : String := String.ofList (text.toList.map Char.toLower)

end LogStyle.Text
