/-!
# TOML values

Floating point numbers and moments of time are kept as they are written: nothing
here calculates with them.
-/

namespace HintFuzz

/-- A TOML value. -/
inductive Toml
  | string (text : String)
  | integer (value : Int)
  | float (lexeme : String)
  | boolean (value : Bool)
  /-- A date, a time or both. -/
  | moment (lexeme : String)
  | array (items : List Toml)
  | table (members : List (String × Toml))
deriving Repr

end HintFuzz
