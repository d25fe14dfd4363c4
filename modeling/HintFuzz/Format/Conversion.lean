import HintFuzz.Decimal.Places

/-!
# Conversions of formats

A conversion shows a value as a text: a number in some base, a floating point
number in one of several notations, or a text, cut to a precision and padded to a
width.
-/

namespace HintFuzz.Format

open Decimal (Binary)

/-- How a value is shown. -/
structure Conversion where
  /-- Padding goes behind the value. -/
  left : Bool
  /-- Numbers that are not negative have a plus sign. -/
  plus : Bool
  /-- Numbers that are not negative have a blank in place of a sign. -/
  blank : Bool
  /-- The base of a number is shown, and a point even if nothing is behind it. -/
  alternate : Bool
  /-- Numbers are padded with zeros. -/
  zero : Bool
  width : Nat
  precision : Option Nat
  letter : Char
deriving DecidableEq, Repr

namespace Conversion

/-- A conversion without flags. -/
def plain (letter : Char) : Conversion :=
  ⟨false, false, false, false, false, 0, none, letter⟩

/-- A conversion with flags. -/
def ofFlags (flags : List Char) (width : Nat) (precision : Option Nat) (letter : Char) :
    Conversion :=
  ⟨flags.contains '-', flags.contains '+', flags.contains ' ', flags.contains '#',
    flags.contains '0', width, precision, letter⟩

/-- A text padded to the width.  `lead` stays in front of zeros. -/
def padded (conversion : Conversion) (zeros : Bool) (lead body : List Char) : String :=
  let missing := conversion.width - (lead.length + body.length)
  String.ofList <|
    if conversion.left then lead ++ body ++ List.replicate missing ' '
    else if zeros then lead ++ List.replicate missing '0' ++ body
    else List.replicate missing ' ' ++ lead ++ body

/-- A text, of which no more is shown than the precision says. -/
def showText (conversion : Conversion) (text : String) : String :=
  let body := match conversion.precision with
    | some count => text.toList.take count
    | none => text.toList
  conversion.padded false [] body

/-- The sign in front of a number. -/
def sign (conversion : Conversion) (negative : Bool) : List Char :=
  if negative then ['-']
  else if conversion.plus then ['+']
  else if conversion.blank then [' ']
  else []

/-- Whether the letter is an upper case one. -/
def isUpper (conversion : Conversion) : Bool :=
  conversion.letter.isUpper

/-- A text in the case of the letter. -/
def inCase (conversion : Conversion) (text : List Char) : List Char :=
  if conversion.isUpper then text.map Char.toUpper else text

/-! ### Whole numbers -/

/-- A whole number.  One that is shown without a sign must not be negative. -/
def showWhole (conversion : Conversion) (value : Int) : String :=
  let base := match conversion.letter with
    | 'o' => 8
    | 'x' | 'X' => 16
    | _ => 10
  let isSigned := conversion.letter = 'd' || conversion.letter = 'i'
  let digits :=
    if value = 0 ∧ conversion.precision = some 0 then []
    else conversion.inCase (Nat.toDigits base value.natAbs)
  let digits := List.replicate (conversion.precision.getD 1 - digits.length) '0' ++ digits
  let digits :=
    if conversion.alternate ∧ base = 8 ∧ digits.head? ≠ some '0' then '0' :: digits else digits
  let lead :=
    if isSigned then conversion.sign (value < 0)
    else if conversion.alternate ∧ base = 16 ∧ value ≠ 0 then conversion.inCase ['0', 'x']
    else []
  conversion.padded (conversion.zero && conversion.precision.isNone) lead digits

/-! ### Floating point numbers -/

/-- A power with a sign and at least so many digits. -/
def showPower (mark : Char) (least : Nat) (exponent : Int) : List Char :=
  let digits := Nat.toDigits 10 exponent.natAbs
  mark :: (if exponent < 0 then '-' else '+') ::
    (List.replicate (least - digits.length) '0' ++ digits)

/-- Digits with a point in front of the second part if there is anything in it or
if the point is always shown. -/
def withPoint (conversion : Conversion) (whole fraction : List Char) : List Char :=
  if fraction.isEmpty ∧ !conversion.alternate then whole else whole ++ '.' :: fraction

/-- A number with a power of ten behind it. -/
def showScientific (conversion : Conversion) (value : Binary) (count : Nat) : List Char :=
  let (digits, exponent) := value.leading count
  conversion.withPoint (digits.take 1) (digits.drop 1) ++ showPower 'e' 2 exponent

/-- A number with all its digits in front of the point. -/
def showFixed (conversion : Conversion) (value : Binary) (count : Nat) : List Char :=
  let (whole, fraction) := value.fixed count
  conversion.withPoint whole fraction

/-- A number in the shorter one of the two notations, without the zeros at the end
of its fraction. -/
def showShorter (conversion : Conversion) (value : Binary) (count : Nat) : List Char :=
  let count := if count = 0 then 1 else count
  let (digits, exponent) := value.leading (count - 1)
  let trim (fraction : List Char) : List Char :=
    if conversion.alternate then fraction
    else (fraction.reverse.dropWhile (· = '0')).reverse
  if exponent < -4 ∨ (count : Int) ≤ exponent then
    conversion.withPoint (digits.take 1) (trim (digits.drop 1)) ++ showPower 'e' 2 exponent
  else
    let (whole, fraction) := value.fixed ((count : Int) - 1 - exponent).toNat
    conversion.withPoint whole (trim fraction)

/-- The last digits of a number in base sixteen. -/
def hexDigits (count value : Nat) : List Char :=
  let digits := Nat.toDigits 16 value
  (List.replicate (count - digits.length) '0' ++ digits)

/-- A number in base sixteen with a power of two behind it, without the mark in
front. -/
def showBinary (conversion : Conversion) (value : Binary) : List Char :=
  let exponent : Int :=
    if value.significand = 0 then 0
    else value.exponent + 52
  let (significand, digits) := match conversion.precision with
    | some count =>
      if count < 13 then
        (Binary.nearest value.significand (Binary.power 2 (4 * (13 - count))), count)
      else (value.significand * Binary.power 2 (4 * (count - 13)), count)
    | none => (value.significand, 13)
  let unit := Binary.power 2 (4 * digits)
  let fraction := hexDigits digits (significand % unit)
  let fraction :=
    if digits = 0 then []
    else if conversion.precision.isSome then fraction
    else (fraction.reverse.dropWhile (· = '0')).reverse
  conversion.withPoint (Nat.toDigits 10 (significand / unit)) fraction ++
    showPower 'p' 1 exponent

/-- The precision of floating point numbers if none is given. -/
def usualPlaces : Nat := 6

/-- A floating point number. -/
def showFloat (conversion : Conversion) (x : Float) : String :=
  let negative := 9223372036854775808 ≤ x.toBits.toNat
  let lead := conversion.sign negative
  match Binary.ofFloat? x with
  | none => conversion.padded false lead
    (conversion.inCase (if x.isNaN then "nan".toList else "inf".toList))
  | some value =>
    let count := conversion.precision.getD usualPlaces
    match conversion.letter.toLower with
    | 'a' => conversion.padded conversion.zero (lead ++ conversion.inCase ['0', 'x'])
      (conversion.inCase (conversion.showBinary value))
    | 'e' => conversion.padded conversion.zero lead
      (conversion.inCase (conversion.showScientific value count))
    | 'f' => conversion.padded conversion.zero lead (conversion.showFixed value count)
    | _ => conversion.padded conversion.zero lead
      (conversion.inCase (conversion.showShorter value count))

end Conversion

end HintFuzz.Format
