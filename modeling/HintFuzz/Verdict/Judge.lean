import HintFuzz.Verdict.Compare

/-!
# Judging an artifact

Both engines run the same artifact, and their outcomes are compared.  A finding
stands only if a second run shows that both engines repeat themselves.
-/

namespace HintFuzz

/-- Whether two outcomes of one engine agree.  Messages may name paths of their
run, so failures need only agree on their class. -/
def Outcome.reproduces : Outcome → Outcome → Bool
  | .finished left, .finished right => left = right
  | .failed left _, .failed right _ => left = right
  | _, _ => false

/-- What running an artifact on both engines gave. -/
structure Judgement where
  a : Outcome
  b : Outcome
  verdict : Verdict
deriving DecidableEq

/-- Two engines and how they are run. -/
structure Judge (σ : Type) where
  a : Engine σ
  b : Engine σ
  timeout : Duration
  /-- Run both engines again before a finding stands. -/
  confirm : Bool

namespace Judge

variable {σ : Type}

/-- The engine in a slot. -/
def engine (judge : Judge σ) : Slot → Engine σ
  | .a => judge.a
  | .b => judge.b

/-- Runs both engines on an artifact. -/
def execute (judge : Judge σ) (artifact : Artifact) : StateM (Bench σ) (Outcome × Outcome) := do
  let a ← judge.a.run artifact judge.timeout
  let b ← judge.b.run artifact judge.timeout
  return (a, b)

/-- The first slot whose outcome was not repeated. -/
def unstable? (first again : Outcome × Outcome) : Option Slot :=
  if !first.1.reproduces again.1 then some .a
  else if !first.2.reproduces again.2 then some .b
  else none

/-- Runs an artifact and judges what comes of it. -/
def judge (judge : Judge σ) (artifact : Artifact) : StateM (Bench σ) Judgement := do
  let first ← judge.execute artifact
  match Verdict.compare first.1 first.2 with
  | .finding detail =>
    if judge.confirm then
      let again ← judge.execute artifact
      match unstable? first again with
      | some slot => return ⟨first.1, first.2, .inconclusive (.nonDeterministic slot)⟩
      | none => return ⟨first.1, first.2, .finding detail⟩
    else return ⟨first.1, first.2, .finding detail⟩
  | verdict => return ⟨first.1, first.2, verdict⟩

/-- Runs the engine of a slot twice and tells whether it repeats itself. -/
def repeats (judge : Judge σ) (artifact : Artifact) (slot : Slot) : StateM (Bench σ) Bool := do
  let first ← (judge.engine slot).run artifact judge.timeout
  let again ← (judge.engine slot).run artifact judge.timeout
  return first.reproduces again

/-- The first engine that does not repeat itself.  The second engine is run only
if the first one does. -/
def selfCheck (judge : Judge σ) (artifact : Artifact) : StateM (Bench σ) (Option Slot) := do
  if ← judge.repeats artifact .a then
    if ← judge.repeats artifact .b then return none
    else return some .b
  else return some .a

end Judge

end HintFuzz
