/-!
# Reading whole numbers

The number at the front of a text, perhaps behind blanks and a sign, in base ten or
in the base that its first digits say.
-/

namespace HintFuzz.Format

/-- The digit that a character is in a base up to sixteen. -/
def digit? (base : Nat) (c : Char) : Option Nat :=
  let value :=
    if c.isDigit then some (c.toNat - 48)
    else if 'a' ≤ c ∧ c ≤ 'f' then some (c.toNat - 87)
    else if 'A' ≤ c ∧ c ≤ 'F' then some (c.toNat - 55)
    else none
  value.filter (· < base)

/-- The number that the digits at the front of a text write in a base, and the
text behind them. -/
def digitsIn (base : Nat) (text : List Char) : Nat × List Char :=
  let digits := text.takeWhile fun c => (digit? base c).isSome
  (digits.foldl (fun value c => base * value + (digit? base c).getD 0) 0,
   text.drop digits.length)

/-- The number at the front of a text: in base sixteen behind `0x`, in base eight
behind `0`, and otherwise in base ten. -/
def numberFront : List Char → Nat × List Char
  | '0' :: mark :: c :: rest =>
    if (mark = 'x' ∨ mark = 'X') ∧ (digit? 16 c).isSome then digitsIn 16 (c :: rest)
    else digitsIn 8 (mark :: c :: rest)
  | '0' :: rest => digitsIn 8 rest
  | text => digitsIn 10 text

/-- Blanks around numbers. -/
def isBlank (c : Char) : Bool :=
  c = ' ' || ('\t' ≤ c && c ≤ '\r')

/-- The number at the front of a text, perhaps behind blanks and a sign, and the
text behind it. -/
def signedFront? (text : List Char) : Option (Int × List Char) :=
  let (negative, unsigned) := match text.dropWhile isBlank with
    | '-' :: rest => (true, rest)
    | '+' :: rest => (false, rest)
    | rest => (false, rest)
  if unsigned.head?.any Char.isDigit then
    let (magnitude, rest) := numberFront unsigned
    some (if negative then -magnitude else magnitude, rest)
  else none

/-- The number that decimal digits at the front of a text write, perhaps behind blanks
and a sign, and the text behind them. -/
def decimalFront? (text : List Char) : Option (Int × List Char) :=
  let (negative, unsigned) := match text.dropWhile isBlank with
    | '-' :: rest => (true, rest)
    | '+' :: rest => (false, rest)
    | rest => (false, rest)
  if unsigned.head?.any Char.isDigit then
    let (magnitude, rest) := digitsIn 10 unsigned
    some (if negative then -magnitude else magnitude, rest)
  else none

/-- The number that a word writes in base ten, if it fits and nothing but blanks is
around it. -/
def decimal? (word : String) : Option Int :=
  (decimalFront? word.toList).bind fun (value, rest) =>
    if rest.all isBlank ∧ Int64.minValue.toInt ≤ value ∧ value ≤ Int64.maxValue.toInt then
      some value
    else none

end HintFuzz.Format
