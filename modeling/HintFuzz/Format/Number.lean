import HintFuzz.Decimal.Lexeme
import HintFuzz.Text.CharacterClass

/-!
# Reading floating point numbers

The number at the front of a text: with decimal digits, with digits in base
sixteen behind `0x`, or by one of the names of what is no number.
-/

namespace HintFuzz.Format

open Text (CharacterClass)

/-- The digits at the front of a text, those behind a point, and the rest.  There
must be a digit on one side of the point. -/
def digitsAround? (isDigit : Char → Bool) (text : List Char) :
    Option (List Char × List Char × List Char) :=
  let whole := text.takeWhile isDigit
  match text.drop whole.length with
  | '.' :: rest =>
    let fraction := rest.takeWhile isDigit
    if whole.isEmpty ∧ fraction.isEmpty then none
    else some (whole, fraction, rest.drop fraction.length)
  | rest => if whole.isEmpty then none else some (whole, [], rest)

/-- The power behind a mark, and the rest.  A mark without digits behind it belongs
to the rest. -/
def powerBehind (mark : Char) (text : List Char) : Int × List Char :=
  match text with
  | c :: rest =>
    if c.toLower = mark then
      let (negative, digits) := match rest with
        | '-' :: rest => (true, rest)
        | '+' :: rest => (false, rest)
        | rest => (false, rest)
      let power := digits.takeWhile Char.isDigit
      if power.isEmpty then (0, text)
      else
        let magnitude : Int := Decimal.ofDigits power
        (if negative then -magnitude else magnitude, digits.drop power.length)
    else (0, text)
  | [] => (0, [])

/-- The value of a digit in base sixteen. -/
def hexValue (c : Char) : Nat :=
  if c.isDigit then c.toNat - 48 else c.toLower.toNat - 87

/-- The greatest power that is worked out; any other one is as good as it. -/
def greatestPower : Int := 100000

/-- A power that can be worked out. -/
def tamed (power : Int) : Int :=
  if greatestPower < power then greatestPower
  else if power < -greatestPower then -greatestPower
  else power

/-- The magnitude at the front of a text, and the rest. -/
def magnitudeFront? (text : List Char) : Option (Float × List Char) :=
  let lower := (text.take 8).map Char.toLower
  if "infinity".toList.isPrefixOf lower then some (1.0 / 0.0, text.drop 8)
  else if "inf".toList.isPrefixOf lower then some (1.0 / 0.0, text.drop 3)
  else if "nan".toList.isPrefixOf lower then some (0.0 / 0.0, text.drop 3)
  else
    let hex? := if "0x".toList.isPrefixOf lower then
        digitsAround? CharacterClass.xdigit.holds (text.drop 2) else none
    match hex? with
    | some (whole, fraction, rest) =>
      let digits := (whole ++ fraction).foldl (fun value c => 16 * value + hexValue c) 0
      let (power, rest) := powerBehind 'p' rest
      some (Float.scaleB (Float.ofNat digits) (tamed (power - 4 * fraction.length)), rest)
    | none =>
      match digitsAround? Char.isDigit text with
      | some (whole, fraction, rest) =>
        let digits := Decimal.ofDigits (whole ++ fraction)
        let (power, rest) := powerBehind 'e' rest
        let power := tamed (power - fraction.length)
        let value :=
          if digits = 0 then 0.0
          else if power < 0 then Float.ofScientific digits true power.natAbs
          else Float.ofScientific digits false power.toNat
        some (value, rest)
      | none => none

/-- The number at the front of a text, perhaps behind blanks and a sign, and the
rest. -/
def floatFront? (text : List Char) : Option (Float × List Char) :=
  match text.dropWhile CharacterClass.space.holds with
  | '-' :: rest => (magnitudeFront? rest).map fun (value, rest) => (-value, rest)
  | '+' :: rest => magnitudeFront? rest
  | rest => magnitudeFront? rest

end HintFuzz.Format
