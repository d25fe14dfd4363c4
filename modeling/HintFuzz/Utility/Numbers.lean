import HintFuzz.Format.Conversion
import HintFuzz.Format.Number
import HintFuzz.Utility.Options

/-!
# Numbers

Utilities that write numbers: `seq` counts in steps, and `factor` takes numbers
apart.  Steps are decimal numbers, which are worked out exactly.
-/

namespace HintFuzz.Utility

open Format (Conversion)

/-- The decimal number `value / 10 ^ places`. -/
structure Steps where
  value : Int
  places : Nat
  /-- How many characters it was written with, in front of the point. -/
  width : Nat

/-- Reads a decimal number, perhaps with a power of ten. -/
def Steps.ofText? (text : Octets) : Option Steps :=
  let characters := text.toList.dropWhile fun c => c = ' ' || c = '\t'
  let (negative, signed, rest) : Bool × Bool × List Char := match characters with
    | '-' :: rest => (true, true, rest)
    | '+' :: rest => (false, true, rest)
    | rest => (false, false, rest)
  match Format.digitsAround? Char.isDigit rest with
  | none => none
  | some (whole, fraction, rest) =>
    let (power, rest) := Format.powerBehind 'e' rest
    if !rest.isEmpty ∨ 10000 < power.natAbs then none
    else
      let digits : Nat := Decimal.ofDigits (whole ++ fraction)
      let magnitude : Int := digits
      let value := if negative then -magnitude else magnitude
      let length := whole.length + if signed && negative then 1 else 0
      let places := (fraction.length : Int) - power
      some (if places < 0 then ⟨value * Nat.pow 10 places.natAbs, 0, length + places.natAbs⟩
        else ⟨value, places.toNat, if whole.isEmpty then length + 1 else length⟩)

namespace Steps

/-- The value in units of a power of ten. -/
def scaled (steps : Steps) (places : Nat) : Int :=
  steps.value * Nat.pow 10 (places - steps.places)

/-- A number with so many places. -/
def showPlaces (value : Int) (places : Nat) (width : Nat) : String :=
  let digits := Nat.toDigits 10 value.natAbs
  let digits := List.replicate (places + 1 - digits.length) '0' ++ digits
  let (whole, fraction) := digits.splitAt (digits.length - places)
  let body := whole ++ (if places = 0 then [] else '.' :: fraction)
  let sign := if value < 0 then ['-'] else []
  let zeros := List.replicate (width - (sign.length + body.length)) '0'
  String.ofList (sign ++ zeros ++ body)

end Steps

/-- A format with one conversion of a floating point number in it. -/
structure StepFormat where
  front : List Char
  conversion : Conversion
  behind : List Char

/-- The text of a format in which two percent signs stand for one. -/
def plainFormat : List Char → Option (List Char)
  | [] => some []
  | '%' :: '%' :: rest => (plainFormat rest).map ('%' :: ·)
  | '%' :: _ => none
  | c :: rest => (plainFormat rest).map (c :: ·)

/-- Splits a format in front of its conversion. -/
def formatFront : List Char → List Char × List Char
  | [] => ([], [])
  | '%' :: '%' :: rest =>
    let (front, behind) := formatFront rest
    ('%' :: front, behind)
  | '%' :: rest => ([], '%' :: rest)
  | c :: rest =>
    let (front, behind) := formatFront rest
    (c :: front, behind)

/-- Reads a format for numbers. -/
def StepFormat.read (text : Octets) : Act StepFormat := do
  let shown := Text.quotedWord text
  match formatFront text.toList with
  | (_, []) => fail ("format " ++ shown ++ " has no % directive")
  | (front, _ :: rest) =>
    let flags := rest.takeWhile fun c => "-+#0 \'".toList.contains c
    let rest := rest.drop flags.length
    let width := rest.takeWhile Char.isDigit
    let rest := rest.drop width.length
    let (precision, rest) : Option (List Char) × List Char := match rest with
      | '.' :: rest =>
        let digits := rest.takeWhile Char.isDigit
        (some digits, rest.drop digits.length)
      | rest => (none, rest)
    let number (digits : List Char) : Nat := Decimal.ofDigits digits
    match rest.dropWhile (· = 'L') with
    | [] => fail ("format " ++ shown ++ " ends in %")
    | letter :: rest =>
      if !"efgaEFGA".toList.contains letter then
        fail ("format " ++ shown ++ " has unknown %" ++ String.singleton letter ++ " directive")
      else
        match plainFormat rest with
        | none => fail ("format " ++ shown ++ " has too many % directives")
        | some behind =>
          return ⟨front, .ofFlags flags (number width) (precision.map number) letter, behind⟩

/-- The number of a decimal value. -/
def floatOf (value : Int) (places : Nat) : Float :=
  let magnitude := Float.ofScientific value.natAbs true places
  if value < 0 then -magnitude else magnitude

/-- Writes numbers in steps, with a separator between them. -/
def writeSteps (shown : Int → Octets) (separator : Octets) (step last : Int) :
    (fuel : Nat) → (first : Bool) → Int → Act Unit
  | 0, _, _ => pure ()
  | fuel + 1, first, value => do
    let isOver := if step < 0 then value < last else last < value
    if isOver then
      unless first do
        print "\n"
    else
      print ((if first then "" else separator) ++ shown value)
      if (← get).broken.isNone then
        writeSteps shown separator step last fuel false (value + step)

/-- Arguments up to the first one that is a number. -/
def withNumbers : List Octets → List Octets
  | [] => []
  | arg :: rest =>
    match arg.toList with
    | '-' :: c :: _ => if c.isDigit ∨ c = '.' then "--" :: arg :: rest else arg :: next arg rest
    | _ => arg :: rest
where
  /-- What follows an option, of which the value may be the next argument. -/
  next (arg : Octets) : List Octets → List Octets
    | [] => []
    | value :: rest =>
      if ["-s", "-f", "--separator", "--format"].contains arg then value :: withNumbers rest
      else withNumbers (value :: rest)

/-- `seq`: counts. -/
def countUp (args : List Octets) : Act Unit := do
  let given ← given
    [.valued 'f' "format", .valued 's' "separator", .flag 'w' "equal-width"] (withNumbers args) true
  let number (text : Octets) : Act Steps := do
    match Steps.ofText? text with
    | some steps => return steps
    | none =>
      match Format.floatFront? text.toList with
      | some (_, []) => fail ("invalid floating point argument: " ++ Text.quotedWord text)
      | _ => failUsage ("invalid floating point argument: " ++ Text.quotedWord text)
  let one : Steps := ⟨1, 0, 1⟩
  let format ← (given.value? "format").mapM StepFormat.read
  if format.isSome ∧ given.has "equal-width" then
    failUsage "format string may not be specified when printing equal width strings"
  let endless : List Octets := ["inf", "infinity", "+inf", "Inf", "INF"]
  let (first, step, last) ← match given.operands with
    | [] => failMissing
    | [last] =>
      pure (one, one, ← (if endless.contains last then pure none else some <$> number last))
    | [first, last] =>
      pure (← number first, one,
        ← (if endless.contains last then pure none else some <$> number last))
    | [first, step, last] =>
      let first ← number first
      let steps ← number step
      if steps.value = 0 then
        failUsage ("invalid Zero increment value: " ++ Text.quotedWord step)
      else
        pure (first, steps,
          ← (if endless.contains last then pure none else some <$> number last))
    | _ :: _ :: _ :: extra :: _ => failExtra extra
  let larger (a b : Nat) : Nat := if a < b then b else a
  let shownPlaces := larger first.places step.places
  let places := larger shownPlaces ((last.map Steps.places).getD 0)
  let separator := (given.value? "separator").getD "\n"
  let pointed (steps : Steps) : Nat :=
    steps.width + if shownPlaces = 0 then 0 else shownPlaces + 1
  let width :=
    if given.has "equal-width" then
      larger (pointed first) (larger ((last.map pointed).getD 0)
        (if step.value < 0 ∧ first.value < 0 then pointed first else 0))
    else 0
  let dropped : Int := (Nat.pow 10 (places - shownPlaces) : Nat)
  let shown (value : Int) : Octets := match format with
    | none => Steps.showPlaces (value / dropped) shownPlaces width
    | some format =>
      String.ofList format.front ++ format.conversion.showFloat (floatOf value places) ++
        String.ofList format.behind
  let start := first.scaled places
  let stride := step.scaled places
  let finish := match last with
    | some last => last.scaled places
    | none => start + stride * Kernel.ages
  writeSteps shown separator stride finish Kernel.ages true start

/-- The prime factors of a number from some divisor on. -/
def factorsFrom : (fuel : Nat) → (divisor number : Nat) → List Nat
  | 0, _, number => if 1 < number then [number] else []
  | fuel + 1, divisor, number =>
    if number < divisor * divisor then (if 1 < number then [number] else [])
    else if number % divisor = 0 then divisor :: factorsFrom fuel divisor (number / divisor)
    else factorsFrom fuel (divisor + if divisor = 2 then 1 else 2) number

/-- `factor`: writes the prime factors of numbers. -/
def takeApart (args : List Octets) : Act Unit := do
  let given ← given [.flag 'h' "exponents"] args false
  let words ← if given.operands.isEmpty then do
      let bytes := (← Kernel.readAll 0).toOption.getD .empty
      let text := Octets.charactersOf bytes
      pure (((text.splitBy fun a b => a.isWhitespace = b.isWhitespace).filter fun word =>
        !word.any Char.isWhitespace).map String.ofList)
    else pure given.operands
  for word in words do
    match word.toNat? with
    | some number =>
      let factors := factorsFrom 10000000 2 number
      printLine (String.intercalate " " ((toString number ++ ":") :: factors.map toString))
    | none => complain (Text.quotedWord word ++ " is not a valid positive integer")

end HintFuzz.Utility
