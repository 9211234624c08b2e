/-!
# TOML values

Values of configuration files. Numbers with a fraction and dates keep the text that they were
written as, because no setting has such a value.
-/

namespace LogStyle.Toml

inductive Value where
  | string (text : String)
  | integer (n : Int)
  | float (text : String)
  | boolean (b : Bool)
  | datetime (text : String)
  | array (items : List Value)
  | table (entries : List (String × Value))
  deriving Repr, Inhabited

namespace Value

/-- The name of the type of a value. -/
def typeName : Value → String
  | string _ => "string"
  | integer _ => "integer"
  | float _ => "float"
  | boolean _ => "boolean"
  | datetime _ => "datetime"
  | array _ => "array"
  | table _ => "table"

/-- The value of a key of a table. -/
def get? : Value → String → Option Value
  | table entries, key => entries.lookup key
  | _, _ => none

end Value

end LogStyle.Toml
