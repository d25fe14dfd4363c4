import HintFuzz.Bytes.Hex
import HintFuzz.Bytes.Sha256
import HintFuzz.Engine.Duration
import HintFuzz.Engine.ErrorClass
import HintFuzz.Memory.Snapshot

/-!
# Artifacts, engines and compilers

Nothing is known of a compiled program but its bytes, and nothing of an engine
or a compiler but what it answers.  Both may keep state of their own and set the
flag that cancels a session, so their answers are given in a state monad over a
`Bench`: the state of the world around them and the flag.
-/

namespace HintFuzz

/-- A compiled program. -/
structure Artifact where
  bytes : Bytes
deriving DecidableEq, Repr

namespace Artifact

/-- The digest of the bytes. -/
def digest (artifact : Artifact) : Bytes :=
  sha256 artifact.bytes

/-- The first six bytes of the digest, in base sixteen. -/
def shortId (artifact : Artifact) : String :=
  Hex.encode (artifact.digest.take 6)

end Artifact

/-- Why there is no artifact. -/
inductive CompileFault
  | rejected (message : String)
  | timeout (limit : Duration)
  /-- The compiler could not be run; `cause` is the system's wording. -/
  | unreachable (cause : String)
deriving DecidableEq, Repr

/-- The wording of a fault. -/
def CompileFault.message : CompileFault → String
  | rejected message => s!"compiler rejected the program: {message}"
  | timeout limit => s!"compiler did not finish within {limit.text}"
  | unreachable cause => s!"compiler could not be run: {cause}"

/-- What came of running an artifact on an engine. -/
inductive Outcome
  | finished (memory : Snapshot)
  | failed (errorClass : ErrorClass) (message : String)
deriving DecidableEq

/-- Whether the run ended well. -/
def Outcome.isFinished : Outcome → Bool
  | finished _ => true
  | failed _ _ => false

/-- One of the two engines that are compared. -/
inductive Slot
  | a
  | b
deriving DecidableEq, Repr

/-- The word for a slot. -/
def Slot.name : Slot → String
  | a => "A"
  | b => "B"

/-- The state around the engines and the compiler. -/
structure Bench (σ : Type) where
  world : σ
  /-- Once set, nothing further is run. -/
  cancelled : Bool
deriving DecidableEq, Repr

/-- An engine whose runs read and change a state. -/
structure Engine (σ : Type) where
  name : String
  run : Artifact → Duration → StateM (Bench σ) Outcome

/-- A compiler whose runs read and change a state. -/
structure Compiler (σ : Type) where
  compile : String → Duration → StateM (Bench σ) (Except CompileFault Artifact)

end HintFuzz
