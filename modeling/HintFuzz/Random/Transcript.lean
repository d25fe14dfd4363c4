import HintFuzz.Bytes.Sha256

/-!
# Seed transcripts

A transcript absorbs bytes and is squeezed for seeds.  A squeeze hashes what
the transcript holds, goes on with the digest in its place, and gives the first
eight bytes of the digest.  The seed of an iteration depends on the master seed
and the iteration's index alone, so iterations can be run in any order.
-/

namespace HintFuzz.Random

/-- What a transcript holds. -/
structure Transcript where
  state : Bytes
deriving DecidableEq, Repr

namespace Transcript

/-- The bytes every transcript starts with. -/
def domain : Bytes :=
  "hintdiff-seed-v1".toUTF8.toList

/-- The transcript of a master seed. -/
def start (master : UInt64) : Transcript :=
  ⟨domain ++ LittleEndian.ofNat 8 master.toNat⟩

/-- Adds bytes. -/
def absorb (transcript : Transcript) (bytes : Bytes) : Transcript :=
  ⟨transcript.state ++ bytes⟩

/-- Takes a seed. -/
def squeeze (transcript : Transcript) : UInt64 × Transcript :=
  let digest := sha256 transcript.state
  (UInt64.ofNat (LittleEndian.toNat (digest.take 8)), ⟨digest⟩)

end Transcript

/-- The seed of iteration `index` of a run with a master seed. -/
def iterationSeed (master index : UInt64) : UInt64 :=
  (((Transcript.start master).absorb (LittleEndian.ofNat 8 index.toNat)).squeeze).1

end HintFuzz.Random
