/-!
# Little-endian numbers

A number as the list of its base-256 digits, least significant first.
-/

namespace HintFuzz

/-- A string of bytes. -/
abbrev Bytes := List UInt8

namespace LittleEndian

/-- The number that a list of base-256 digits writes. -/
def toNat : Bytes → Nat
  | [] => 0
  | digit :: rest => digit.toNat + 256 * toNat rest

/-- The last `width` base-256 digits of a number; higher digits are cut off. -/
def ofNat : (width : Nat) → Nat → Bytes
  | 0, _ => []
  | width + 1, n => UInt8.ofNat n :: ofNat width (n / 256)

end LittleEndian

end HintFuzz
