import HintFuzz.Bytes.LittleEndian

/-!
# The digest SHA-256

A message is padded to whole blocks of sixteen words, and every block is mixed
into a state of eight words by sixty-four rounds.
-/

namespace HintFuzz.Sha256

/-- The eight words that a message is mixed into. -/
structure State where
  a : UInt32
  b : UInt32
  c : UInt32
  d : UInt32
  e : UInt32
  f : UInt32
  g : UInt32
  h : UInt32

/-- The state before the first block: the first 32 bits of the fractional parts
of the square roots of the first eight primes. -/
def State.initial : State :=
  ⟨0x6a09e667, 0xbb67ae85, 0x3c6ef372, 0xa54ff53a,
   0x510e527f, 0x9b05688c, 0x1f83d9ab, 0x5be0cd19⟩

/-- The constant of each round: the first 32 bits of the fractional parts of the
cube roots of the first sixty-four primes. -/
def roundConstants : List UInt32 :=
  [0x428a2f98, 0x71374491, 0xb5c0fbcf, 0xe9b5dba5, 0x3956c25b, 0x59f111f1, 0x923f82a4,
   0xab1c5ed5, 0xd807aa98, 0x12835b01, 0x243185be, 0x550c7dc3, 0x72be5d74, 0x80deb1fe,
   0x9bdc06a7, 0xc19bf174, 0xe49b69c1, 0xefbe4786, 0x0fc19dc6, 0x240ca1cc, 0x2de92c6f,
   0x4a7484aa, 0x5cb0a9dc, 0x76f988da, 0x983e5152, 0xa831c66d, 0xb00327c8, 0xbf597fc7,
   0xc6e00bf3, 0xd5a79147, 0x06ca6351, 0x14292967, 0x27b70a85, 0x2e1b2138, 0x4d2c6dfc,
   0x53380d13, 0x650a7354, 0x766a0abb, 0x81c2c92e, 0x92722c85, 0xa2bfe8a1, 0xa81a664b,
   0xc24b8b70, 0xc76c51a3, 0xd192e819, 0xd6990624, 0xf40e3585, 0x106aa070, 0x19a4c116,
   0x1e376c08, 0x2748774c, 0x34b0bcb5, 0x391c0cb3, 0x4ed8aa4a, 0x5b9cca4f, 0x682e6ff3,
   0x748f82ee, 0x78a5636f, 0x84c87814, 0x8cc70208, 0x90befffa, 0xa4506ceb, 0xbef9a3f7,
   0xc67178f2]

/-- A word turned right by `n` bits, for `n` between 1 and 31. -/
def rotateRight (word : UInt32) (n : UInt32) : UInt32 :=
  (word >>> n) ||| (word <<< (32 - n))

/-- One round: mixes a constant and a word of the message into the state. -/
def round (state : State) (constant word : UInt32) : State :=
  let ⟨a, b, c, d, e, f, g, h⟩ := state
  let sum1 := rotateRight e 6 ^^^ rotateRight e 11 ^^^ rotateRight e 25
  let choice := (e &&& f) ^^^ ((~~~e) &&& g)
  let mixed := h + sum1 + choice + constant + word
  let sum0 := rotateRight a 2 ^^^ rotateRight a 13 ^^^ rotateRight a 22
  let majority := (a &&& b) ^^^ (a &&& c) ^^^ (b &&& c)
  ⟨mixed + (sum0 + majority), a, b, c, d + mixed, e, f, g⟩

/-- The word that follows a window of sixteen words of a message schedule. -/
def nextWord (window : List UInt32) : UInt32 :=
  let early := window.getD 1 0
  let late := window.getD 14 0
  let sigma0 := rotateRight early 7 ^^^ rotateRight early 18 ^^^ (early >>> 3)
  let sigma1 := rotateRight late 17 ^^^ rotateRight late 19 ^^^ (late >>> 10)
  sigma1 + window.getD 9 0 + sigma0 + window.getD 0 0

/-- The rounds for a list of constants, along a window of the message schedule. -/
def rounds : List UInt32 → List UInt32 → State → State
  | [], _, state => state
  | constant :: rest, window, state =>
    rounds rest (window.tail ++ [nextWord window]) (round state constant (window.headD 0))

/-- Mixes one block of sixteen words into the state. -/
def compress (state : State) (block : List UInt32) : State :=
  let mixed := rounds roundConstants block state
  ⟨state.a + mixed.a, state.b + mixed.b, state.c + mixed.c, state.d + mixed.d,
   state.e + mixed.e, state.f + mixed.f, state.g + mixed.g, state.h + mixed.h⟩

/-- Big-endian words of four bytes each; bytes left over at the end are dropped. -/
def words : Bytes → List UInt32
  | a :: b :: c :: d :: rest =>
    ((a.toUInt32 <<< 24) ||| (b.toUInt32 <<< 16) ||| (c.toUInt32 <<< 8) ||| d.toUInt32)
      :: words rest
  | _ => []

/-- The four bytes of a word, most significant first. -/
def wordBytes (word : UInt32) : Bytes :=
  [(word >>> 24).toUInt8, (word >>> 16).toUInt8, (word >>> 8).toUInt8, word.toUInt8]

/-- A message with a one bit, zeros and its bit length after it, filling whole
blocks of 64 bytes. -/
def pad (message : Bytes) : Bytes :=
  let zeros := (119 - message.length % 64) % 64
  message ++ 0x80 :: List.replicate zeros 0 ++
    (LittleEndian.ofNat 8 (8 * message.length)).reverse

/-- Mixes all blocks of a list of words into the state. -/
def absorb (state : State) (words : List UInt32) : State :=
  if words.isEmpty then state
  else absorb (compress state (words.take 16)) (words.drop 16)
termination_by words.length
decreasing_by
  have positive : 0 < words.length := by
    rename_i nonempty
    exact List.length_pos_iff.2 fun empty => nonempty (List.isEmpty_iff.2 empty)
  rw [List.length_drop]
  omega

end Sha256

/-- The 32 bytes of the SHA-256 digest of a message. -/
def sha256 (message : Bytes) : Bytes :=
  let ⟨a, b, c, d, e, f, g, h⟩ := Sha256.absorb .initial (Sha256.words (Sha256.pad message))
  [a, b, c, d, e, f, g, h].flatMap Sha256.wordBytes

end HintFuzz
