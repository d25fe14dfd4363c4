import HintFuzz.Decimal.Lexeme
import HintFuzz.Json.Basic

/-!
# Records in JSON

A record is an object with certain names, or an array of exactly its fields in
order.  Unknown names are passed over, with whatever stands under them.
-/

namespace HintFuzz.Json

/-- The text of a string. -/
def text? : Json → Option String
  | string text => text
  | _ => none

/-- The items of an array. -/
def items? : Json → Option (List Json)
  | array items => some items
  | _ => none

/-- A number written with digits alone and below `2 ^ 64`. -/
def natural? : Json → Option Nat
  | number lexeme =>
    if lexeme.toList.all Char.isDigit then
      let value := Decimal.ofDigits lexeme.toList
      if value < UInt64.size then some value else none
    else none
  | _ => none

/-- A text or null. -/
def optionalText? : Json → Option (Option String)
  | null => some none
  | value => value.text?.map some

/-- The value under a name: `none` if the name stands there twice. -/
def member? (members : List (Json.Text × Json)) (name : String) : Option (Option Json) :=
  match members.filter fun member => member.1 = some name with
  | [] => some none
  | [(_, value)] => some (some value)
  | _ => none

/-- The values of the fields with the given names.  All names that stand in an
object must have a text, and none of the given ones may stand there twice. -/
def optionalFields? (names : List String) : Json → Option (List (Option Json))
  | object members =>
    if members.all fun member => member.1.isSome then names.mapM (member? members) else none
  | array items => if items.length = names.length then some (items.map some) else none
  | _ => none

/-- The values of the fields with the given names, none of which may be
missing. -/
def fields? (names : List String) (value : Json) : Option (List Json) := do
  (← optionalFields? names value).mapM id

/-! ### Limits -/

mutual

/-- Whether a value keeps the limits of a value that is held for later: every
string has a text, no number is too great, and containers are nested at most
`depth` deep. -/
def withinLimits (depth : Nat) : Json → Bool
  | null | bool _ => true
  | number lexeme => !(Decimal.Lexeme.ofText lexeme.toList).exceedsDoubleInSteps
  | string text => text.isSome
  | array items =>
    match depth with
    | 0 => false
    | depth + 1 => itemsWithinLimits depth items
  | object members =>
    match depth with
    | 0 => false
    | depth + 1 => membersWithinLimits depth members

/-- Whether all items keep the limits. -/
def itemsWithinLimits (depth : Nat) : List Json → Bool
  | [] => true
  | item :: rest => item.withinLimits depth && itemsWithinLimits depth rest

/-- Whether all names and values keep the limits. -/
def membersWithinLimits (depth : Nat) : List (Json.Text × Json) → Bool
  | [] => true
  | (name, value) :: rest =>
    name.isSome && value.withinLimits depth && membersWithinLimits depth rest

end

end HintFuzz.Json
