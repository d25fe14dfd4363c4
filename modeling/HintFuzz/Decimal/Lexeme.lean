/-!
# Numbers as they are written

A number is written with digits, perhaps a point among them and a power of ten
behind them.  Its size is read in one of two ways: exactly, or in steps that
round, with a significand of 64 bits and powers of ten that are rounded
themselves.

A floating point number of 64 bits keeps 53 bits of its value and none beyond
`2 ^ 1024`.
-/

/-! ### Sizes of floating point numbers -/

namespace HintFuzz.Double

/-- The least number that rounds to `2 ^ 1024` and is therefore infinite. -/
def overflow : Nat := 1 <<< 1024 - 1 <<< 970

/-- The number of at most 53 significant bits nearest to `value`; of two that are
equally near the even one. -/
def nearest (value : Nat) : Nat :=
  let unit := 1 <<< (Nat.log2 value + 1 - 53)
  let (floor, rest) := (value / unit, value % unit)
  let rounded :=
    if 2 * rest < unit then floor
    else if unit < 2 * rest then floor + 1
    else floor + floor % 2
  rounded * unit

/-- Whether the number `digits * 10 ^ exponent` is infinite when it is rounded
once. -/
def exceeds (digits : Nat) (exponent : Int) : Bool :=
  if digits = 0 then false
  else if exponent < 0 then
    -- Of a number with that many digits nothing is left in front of the point.
    if (Nat.toDigits 10 digits).length + 1 < exponent.natAbs then false
    else overflow * Nat.pow 10 exponent.natAbs ≤ digits
  else if 309 < exponent then true
  else overflow ≤ digits * Nat.pow 10 exponent.toNat

end HintFuzz.Double

/-! ### Written numbers -/

namespace HintFuzz.Decimal

/-- The number that decimal digits write. -/
def ofDigits (digits : List Char) : Nat :=
  digits.foldl (fun value c => 10 * value + (c.toNat - 48)) 0

/-- The parts of a number without its sign. -/
structure Lexeme where
  whole : List Char
  fraction : List Char
  exponent : Int
deriving DecidableEq, Repr

/-- The parts of a number that is written well. -/
def Lexeme.ofText (text : List Char) : Lexeme :=
  let text := text.filter fun c => c ≠ '_'
  let mantissa := text.takeWhile fun c => c ≠ 'e' && c ≠ 'E'
  let power := (text.drop mantissa.length).drop 1
  let magnitude : Int := ofDigits (power.filter Char.isDigit)
  { whole := (mantissa.takeWhile (· ≠ '.')).filter Char.isDigit
    fraction := (mantissa.dropWhile (· ≠ '.')).drop 1
    exponent := if power.head? = some '-' then -magnitude else magnitude }

/-- Whether the number is infinite when it is rounded once. -/
def Lexeme.exceedsDouble (lexeme : Lexeme) : Bool :=
  Double.exceeds (ofDigits (lexeme.whole ++ lexeme.fraction))
    (lexeme.exponent - lexeme.fraction.length)

/-- Takes digits into a significand as long as it fits into 64 bits, and leaves
the others. -/
def absorb (significand : Nat) : List Char → Nat × List Char
  | [] => (significand, [])
  | c :: rest =>
    let next := 10 * significand + (c.toNat - 48)
    if next < UInt64.size then absorb next rest else (significand, c :: rest)

/-- Whether the number is infinite when its significand, the power of ten and
their product are rounded one after the other. -/
def Lexeme.exceedsDoubleInSteps (lexeme : Lexeme) : Bool :=
  let (significand, dropped) := absorb 0 lexeme.whole
  let (significand, unused) := absorb significand lexeme.fraction
  let taken := lexeme.fraction.length - unused.length
  let exponent := lexeme.exponent + dropped.length - taken
  if significand = 0 ∨ exponent < 0 then false
  else if 308 < exponent then true
  else
    Double.overflow ≤
      Double.nearest significand * Double.nearest (Nat.pow 10 exponent.toNat)

end HintFuzz.Decimal
