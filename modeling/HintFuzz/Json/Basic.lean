/-!
# JSON values

A value keeps its numbers as they are written and its members in order, repeated
names included, so that a reader may decide for each part how strict to be.
-/

namespace HintFuzz

/-- The text of a string: `none` if an escape in it names one half of a pair of
surrogates without the other. -/
abbrev Json.Text := Option String

/-- A JSON value. -/
inductive Json
  | null
  | bool (value : Bool)
  /-- A number as it is written. -/
  | number (lexeme : String)
  | string (text : Json.Text)
  | array (items : List Json)
  | object (members : List (Json.Text × Json))
deriving Repr

namespace Json

/-- A string value. -/
def ofString (text : String) : Json := .string (some text)

/-- A natural number. -/
def ofNat (value : Nat) : Json := .number (toString value)

/-- An object with the given names and values. -/
def ofMembers (members : List (String × Json)) : Json :=
  .object (members.map fun (name, value) => (some name, value))

end Json

end HintFuzz
