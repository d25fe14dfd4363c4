/-!
# Decimal places of floating point numbers

A floating point number is a whole number times a power of two, so its decimal
places are exact; they are rounded to the nearest, and to the even neighbour if
two are equally near.
-/

namespace HintFuzz.Decimal

/-- The value `significand * 2 ^ exponent`. -/
structure Binary where
  significand : Nat
  exponent : Int
deriving DecidableEq, Repr

namespace Binary

/-- The magnitude of a floating point number; none if it is infinite or no
number. -/
def ofFloat? (x : Float) : Option Binary :=
  let bits := x.toBits.toNat
  let exponent := bits / 4503599627370496 % 2048
  let fraction := bits % 4503599627370496
  if exponent = 2047 then none
  else if exponent = 0 then some ⟨fraction, -1074⟩
  else some ⟨fraction + 4503599627370496, (exponent : Int) - 1075⟩

/-- A power of two or of ten. -/
def power (base exponent : Nat) : Nat :=
  if base = 2 then 1 <<< exponent else Nat.pow base exponent

/-- The value as a fraction. -/
def fraction (value : Binary) : Nat × Nat :=
  if value.exponent < 0 then (value.significand, power 2 value.exponent.natAbs)
  else (value.significand * power 2 value.exponent.toNat, 1)

/-- The whole number nearest to a fraction, the even one of two that are equally
near. -/
def nearest (numerator denominator : Nat) : Nat :=
  let (floor, rest) := (numerator / denominator, numerator % denominator)
  if 2 * rest < denominator then floor
  else if denominator < 2 * rest then floor + 1
  else floor + floor % 2

/-- The value times a power of ten, rounded. -/
def scaled (value : Binary) (places : Int) : Nat :=
  let (numerator, denominator) := value.fraction
  if places < 0 then nearest numerator (denominator * power 10 places.natAbs)
  else nearest (numerator * power 10 places.toNat) denominator

/-- The greatest power of ten that is no more than the value, which is not zero. -/
def magnitude (value : Binary) : Int :=
  let (numerator, denominator) := value.fraction
  let digits (n : Nat) : Int := (Nat.toDigits 10 n).length
  let guess := digits numerator - digits denominator
  let reaches : Bool :=
    if guess < 0 then denominator ≤ numerator * power 10 guess.natAbs
    else denominator * power 10 guess.toNat ≤ numerator
  if reaches then guess else guess - 1

/-- The first digits of the value, one more than `count`, and the power of ten that
the first one counts. -/
def leading (value : Binary) (count : Nat) : List Char × Int :=
  if value.significand = 0 then (List.replicate (count + 1) '0', 0)
  else
    let exponent := value.magnitude
    let digits := Nat.toDigits 10 (value.scaled (count - exponent))
    if digits.length = count + 2 then (digits.take (count + 1), exponent + 1)
    else (digits, exponent)

/-- The digits in front of the point and so many behind it. -/
def fixed (value : Binary) (count : Nat) : List Char × List Char :=
  let digits := Nat.toDigits 10 (value.scaled count)
  let digits := List.replicate (count + 1 - digits.length) '0' ++ digits
  digits.splitAt (digits.length - count)

end Binary

end HintFuzz.Decimal
