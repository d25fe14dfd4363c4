import HintFuzz.Json.Fields
import HintFuzz.Json.Reader
import HintFuzz.Toml.Basic
import HintFuzz.Toml.Text

/-!
# Numbers, moments and words of TOML

A scalar without quotation marks is a run of certain characters; what it is
follows from its form.
-/

namespace HintFuzz.Toml

/-- Characters that a scalar without quotation marks is made of. -/
def isScalar (c : Char) : Bool :=
  c.isAlphanum || "_+-.:".toList.contains c

/-! ### Digits -/

/-- The digits of a run in which single underscores may stand between digits. -/
def digits? (isDigit : Char → Bool) : List Char → Option (List Char)
  | [] => none
  | [c] => if isDigit c then some [c] else none
  | c :: '_' :: rest =>
    if isDigit c then (digits? isDigit rest).map (c :: ·) else none
  | c :: rest => if isDigit c then (digits? isDigit rest).map (c :: ·) else none

/-- The number that digits write in a base. -/
def numberOf (base : Nat) (digits : List Char) : Nat :=
  digits.foldl (fun value c => base * value + ((Json.hexValue? c).getD 0)) 0

/-- Digits in front of which no zero is written. -/
def wholeDigits? (text : List Char) : Option (List Char) :=
  match digits? Char.isDigit text with
  | some ('0' :: _ :: _) => none
  | found => found

/-- A text without its sign, and whether the sign is a minus. -/
def splitSign : List Char → Bool × List Char
  | '+' :: rest => (false, rest)
  | '-' :: rest => (true, rest)
  | text => (false, text)

/-! ### Numbers -/

/-- An integer of 64 bits with a sign. -/
def within64 (value : Int) : Option Int :=
  if Int64.minValue.toInt ≤ value ∧ value ≤ Int64.maxValue.toInt then some value else none

/-- The integer that a scalar writes. -/
def integer? : List Char → Option Int
  | '0' :: 'x' :: rest => do
    within64 (numberOf 16 (← digits? (fun c => (Json.hexValue? c).isSome) rest))
  | '0' :: 'o' :: rest => do
    within64 (numberOf 8 (← digits? (fun c => '0' ≤ c && c ≤ '7') rest))
  | '0' :: 'b' :: rest => do
    within64 (numberOf 2 (← digits? (fun c => c = '0' || c = '1') rest))
  | text => do
    let (negative, rest) := splitSign text
    let value : Int := numberOf 10 (← wholeDigits? rest)
    within64 (if negative then -value else value)

/-- Whether a scalar is a floating point number.  One that is too great is not. -/
def isFloat (text : List Char) : Bool :=
  let (negative, rest) := splitSign text
  if rest = "inf".toList ∨ rest = "nan".toList then true
  else
    let isMark (c : Char) : Bool := c = 'e' || c = 'E'
    let mantissa := rest.takeWhile fun c => !isMark c
    let exponent := rest.dropWhile fun c => !isMark c
    let whole := mantissa.takeWhile (· ≠ '.')
    let fraction := mantissa.dropWhile (· ≠ '.')
    (!fraction.isEmpty || !exponent.isEmpty) &&
      (wholeDigits? whole).isSome &&
      (fraction.isEmpty || (digits? Char.isDigit (fraction.drop 1)).isSome) &&
      (exponent.isEmpty || (digits? Char.isDigit (splitSign (exponent.drop 1)).2).isSome) &&
      (negative || !(Decimal.Lexeme.ofText rest).exceedsDouble)

/-! ### Moments -/

/-- The number that exactly `count` digits at the start of a text write. -/
def fixedNumber? (count : Nat) (text : List Char) : Option (Nat × List Char) :=
  let front := text.take count
  if front.length = count ∧ front.all Char.isDigit then
    some (numberOf 10 front, text.drop count)
  else none

/-- A text behind a character that it starts with. -/
def after? (c : Char) : List Char → Option (List Char)
  | d :: rest => if d = c then some rest else none
  | [] => none

/-- What follows a date.  Every month is taken to have 31 days. -/
def afterDate? (text : List Char) : Option (List Char) := do
  let (_, rest) ← fixedNumber? 4 text
  let (month, rest) ← fixedNumber? 2 (← after? '-' rest)
  let (day, rest) ← fixedNumber? 2 (← after? '-' rest)
  if 1 ≤ month ∧ month ≤ 12 ∧ 1 ≤ day ∧ day ≤ 31 then some rest else none

/-- What follows a time of day. -/
def afterTime? (text : List Char) : Option (List Char) := do
  let (hour, rest) ← fixedNumber? 2 text
  let (minute, rest) ← fixedNumber? 2 (← after? ':' rest)
  let (second, rest) ← fixedNumber? 2 (← after? ':' rest)
  if 23 < hour ∨ 59 < minute ∨ 60 < second then none
  else
    match rest with
    | '.' :: rest => (Json.readDigits rest).map Prod.snd
    | rest => some rest

/-- Whether a text is a distance from universal time, or nothing. -/
def isOffset : List Char → Bool
  | [] => true
  | c :: rest =>
    if c = 'Z' ∨ c = 'z' then rest.isEmpty
    else if c = '+' ∨ c = '-' then
      match fixedNumber? 2 rest with
      | some (hour, ':' :: rest) =>
        match fixedNumber? 2 rest with
        | some (minute, []) => hour ≤ 23 && minute ≤ 59
        | _ => false
      | _ => false
    else false

/-- Whether a scalar is a date, a time or both. -/
def isMoment (text : List Char) : Bool :=
  match afterDate? text with
  | some [] => true
  | some (mark :: rest) =>
    (mark = 'T' || mark = 't' || mark = ' ') &&
      match afterTime? rest with
      | some rest => isOffset rest
      | none => false
  | none => afterTime? text = some []

/-! ### Scalars -/

/-- The value that a scalar without quotation marks writes. -/
def scalar? (text : List Char) : Option Toml :=
  if text = "true".toList then some (.boolean true)
  else if text = "false".toList then some (.boolean false)
  else
    match integer? text with
    | some value => some (.integer value)
    | none =>
      if isFloat text then some (.float (String.ofList text))
      else if isMoment text then some (.moment (String.ofList text))
      else none

/-- The scalar without quotation marks at the start of a text.  One blank may
stand between a date and a time. -/
def splitScalar (text : List Char) : List Char × List Char :=
  let (front, rest) := (text.takeWhile isScalar, text.dropWhile isScalar)
  match rest with
  | ' ' :: more =>
    if afterDate? front = some [] ∧ (afterTime? more).isSome then
      (front ++ ' ' :: more.takeWhile isScalar, more.dropWhile isScalar)
    else (front, rest)
  | _ => (front, rest)

/-- A scalar without quotation marks. -/
def readScalar (text : List Char) : Option (Toml × List Char) :=
  let (front, rest) := splitScalar text
  (scalar? front).map fun value => (value, rest)

end HintFuzz.Toml
