import HintFuzz.Bytes.LittleEndian

/-!
# Field elements

A value of a memory cell, kept exactly as an engine wrote it: nothing is
reduced modulo the prime, so a value at or above the prime differs from the
reduced one.
-/

namespace HintFuzz

/-- A value read back from an engine's memory. -/
structure Felt where
  value : Nat
deriving DecidableEq, Ord, Repr

namespace Felt

/-- The prime `2 ^ 251 + 17 * 2 ^ 192 + 1`. -/
def prime : Nat := 1 <<< 251 + 17 <<< 192 + 1

/-- A value below the prime. -/
def isCanonical (felt : Felt) : Bool :=
  felt.value < prime

/-- Bytes of one value in a memory dump. -/
def byteCount : Nat := 32

/-- The value as little-endian bytes, zeros included; what does not fit is cut off. -/
def toBytes (felt : Felt) : Bytes :=
  LittleEndian.ofNat byteCount felt.value

/-- The value that little-endian bytes write. -/
def ofBytes (bytes : Bytes) : Felt :=
  ⟨LittleEndian.toNat bytes⟩

/-- The value in decimal. -/
def text (felt : Felt) : String :=
  toString felt.value

end Felt

end HintFuzz
