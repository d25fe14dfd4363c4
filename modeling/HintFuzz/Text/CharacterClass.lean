/-!
# Classes of characters by name

The classes that patterns and sets name between colons.  They know the characters
of one byte only, of which those beyond the first half belong to no class.
-/

namespace HintFuzz.Text

/-- A class of characters. -/
inductive CharacterClass
  | alnum
  | alpha
  | blank
  | cntrl
  | digit
  | graph
  | lower
  | printable
  | punct
  | space
  | upper
  | xdigit
deriving DecidableEq

namespace CharacterClass

/-- The class of a name. -/
def ofName? (name : String) : Option CharacterClass :=
  match name with
  | "alnum" => some alnum
  | "alpha" => some alpha
  | "blank" => some blank
  | "cntrl" => some cntrl
  | "digit" => some digit
  | "graph" => some graph
  | "lower" => some lower
  | "print" => some printable
  | "punct" => some punct
  | "space" => some space
  | "upper" => some upper
  | "xdigit" => some xdigit
  | _ => none

/-- Whether a class holds a character. -/
def holds (kind : CharacterClass) (c : Char) : Bool :=
  let isVisible := 32 < c.toNat && c.toNat < 127
  match kind with
  | alnum => c.isAlphanum
  | alpha => c.isAlpha
  | blank => c = ' ' || c = '\t'
  | cntrl => c.toNat < 32 || c.toNat = 127
  | digit => c.isDigit
  | graph => isVisible
  | lower => c.isLower
  | printable => isVisible || c = ' '
  | punct => isVisible && !c.isAlphanum
  | space => c = ' ' || (9 ≤ c.toNat && c.toNat ≤ 13)
  | upper => c.isUpper
  | xdigit => c.isDigit || ('a' ≤ c && c ≤ 'f') || ('A' ≤ c && c ≤ 'F')

/-- The class that a text names between a bracket with a colon and a colon with a
bracket, from behind the first bracket on, and the text behind. -/
def read? : List Char → Option (CharacterClass × List Char)
  | ':' :: rest =>
    let name := rest.takeWhile Char.isAlpha
    match rest.drop name.length with
    | ':' :: ']' :: rest => (ofName? (String.ofList name)).map (·, rest)
    | _ => none
  | _ => none

end CharacterClass

end HintFuzz.Text
