import HintFuzz.Random.ChaCha

/-!
# Seeded random streams

A stream of 32-bit words that a 64-bit seed fixes.  The seed is stretched to a
key by a permuted congruential generator, and the words are those of the key's
blocks in order.  Wider numbers take several words, the low one first.

A number of the range `low ..= high` is drawn from words of a random stream by
widening multiplication: `v` of `w` random bits gives `low + v * r / 2 ^ w`,
where `r` is the size of the range.  A `v` whose product leaves a remainder
beyond the last whole multiple of `r` is rejected and drawn again, so that all
numbers are equally likely.
-/

namespace HintFuzz.Random

/-- The rest of a random stream. -/
structure Stream where
  key : ChaCha.Key
  /-- Counter of the next block. -/
  counter : UInt64
  /-- Words of the last block that have not been taken. -/
  pending : List UInt32

/-- One step of the generator that stretches a seed. -/
def stretch (state : UInt64) : UInt64 :=
  state * 6364136223846793005 + 11634580027462260723

/-- The word that a state of that generator gives. -/
def permuted (state : UInt64) : UInt32 :=
  let mixed := (((state >>> 18) ^^^ state) >>> 27).toUInt32
  let turn := (state >>> 59).toUInt32
  (mixed >>> turn) ||| (mixed <<< ((32 - turn) % 32))

/-- A row of key words and the state after it. -/
def keyRow (state : UInt64) : ChaCha.Row × UInt64 :=
  let first := stretch state
  let second := stretch first
  let third := stretch second
  let fourth := stretch third
  (⟨permuted first, permuted second, permuted third, permuted fourth⟩, fourth)

/-- The stream of a seed. -/
def Stream.ofSeed (seed : UInt64) : Stream :=
  let (low, state) := keyRow seed
  let (high, _) := keyRow state
  { key := ⟨low, high⟩, counter := 0, pending := [] }

/-- Takes one word. -/
def Stream.next (stream : Stream) : UInt32 × Stream :=
  match stream.pending with
  | word :: rest => (word, { stream with pending := rest })
  | [] =>
    match ChaCha.block stream.key stream.counter with
    | [] => (0, stream)
    | word :: rest => (word, { stream with counter := stream.counter + 1, pending := rest })

/-- Takes a number of `words` words, the low word first. -/
def Stream.take : (words : Nat) → Stream → Nat × Stream
  | 0, stream => (0, stream)
  | words + 1, stream =>
    let (low, stream) := stream.next
    let (high, stream) := Stream.take words stream
    (low.toNat + high <<< 32, stream)

/-! ### Uniform numbers in a range -/

/-- A source of random numbers with a state: it draws a number between two bounds, both included,
from random numbers of so many words. -/
abbrev Source (σ : Type) : Type :=
  (words low high : Nat) → σ → Nat × σ

/-- How often a number is drawn again.  Fewer than half of all draws are
rejected, so the bound is never met in practice. -/
def attempts : Nat := 256

/-- Draws from `words` words until the draw is accepted: `span` is the size of
the range and `zone` the greatest remainder that is accepted. -/
def accepted (words span zone : Nat) : Nat → Stream → Nat × Stream
  | 0, stream => (0, stream)
  | tries + 1, stream =>
    let (v, stream) := stream.take words
    if v * span % 1 <<< (32 * words) ≤ zone then ((v * span) >>> (32 * words), stream)
    else accepted words span zone tries stream

/-- A number between `low` and `high`, both included, drawn from random numbers
of `words` words.  The range must not be empty. -/
def uniform (words low high : Nat) (stream : Stream) : Nat × Stream :=
  let bits := 32 * words
  let span := (high + 1 - low) % 1 <<< bits
  if span = 0 then
    -- The range holds every number of that many bits.
    stream.take words
  else
    let zone := span <<< (bits - 1 - Nat.log2 span) - 1
    let (offset, stream) := accepted words span zone attempts stream
    (low + offset, stream)

end HintFuzz.Random
