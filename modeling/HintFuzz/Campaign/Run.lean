import HintFuzz.Campaign.Session
import HintFuzz.Campaign.Summary
import HintFuzz.Random.Transcript

/-!
# Campaigns

A campaign takes one iteration after another: plan it from its seed, compile the
program once, judge the artifact on both engines, and commit what was found to
the log.  Whether to go on is asked three times: before an iteration, before its program is
compiled and again when an artifact has come back.  Planning is pure, so that between the first
two the flag changes only by what others do.
-/

namespace HintFuzz

/-- What a campaign runs with. -/
structure Campaign (σ : Type) where
  catalog : Catalog
  compiler : Compiler σ
  judge : Judge σ
  compileTimeout : Duration

/-- How much one run may do. -/
structure Budget where
  iterations : Nat
  deadline : Option Duration
deriving DecidableEq, Repr

namespace Campaign

variable {σ : Type}

/-! ### Iterations -/

/-- The verdict on a program, or `none` if the run was stopped before its artifact could be
judged. -/
def verdictUntil? (campaign : Campaign σ) (text : String) (confidence : Confidence) :
    StateM (Timed σ) (Option Verdict) := do
  match ← Timed.onSession (Session.onBench (campaign.compiler.compile text campaign.compileTimeout)) with
  | .ok artifact =>
    if ← Timed.stopped then return none
    else
      return some (← Timed.onSession (Session.onBench (campaign.judge.judge artifact))).verdict
  | .error fault => return some (Verdict.ofCompileFault fault confidence)

/-- What a verdict makes of the iteration of a planned program.  A finding is
committed. -/
def conclude (campaign : Campaign σ) (seed : UInt64) (plan : Plan) (text : String) :
    Verdict → StateM (Session σ) Iteration
  | .pass => return .pass
  | .inconclusive reason => return .inconclusive reason
  | .finding detail => do
    let finding := Finding.ofIteration plan.wrapper.hint seed plan.values text
      campaign.judge.a.name campaign.judge.b.name detail
    Session.commit finding
    return .finding finding

/-- The iteration of a seed, with the hint that the seed picks or the one that is given, while
others go on.  `meanwhile` is what these do around the engines until the program is planned. -/
def iterateAround (campaign : Campaign σ) (meanwhile : StateM (Bench σ) Unit) (seed : UInt64)
    (hint? : Option HintId) : StateM (Timed σ) Iteration := do
  if ← Timed.stopped then return .cancelled
  else
    Timed.onSession (Session.onBench meanwhile)
    match campaign.catalog.plan seed hint? with
    | .error reason => return .skipped reason
    | .ok plan =>
      match plan.wrapper.instantiate plan.values with
      | .error fault => return .skipped (.synthesis fault)
      | .ok text =>
        if ← Timed.stopped then return .cancelled
        else
          match ← campaign.verdictUntil? text plan.wrapper.confidence with
          | none => return .cancelled
          | some verdict => Timed.onSession (campaign.conclude seed plan text verdict)

/-- The iteration of a seed, with nobody around. -/
def iterateUntil (campaign : Campaign σ) (seed : UInt64) (hint? : Option HintId) :
    StateM (Timed σ) Iteration :=
  campaign.iterateAround (pure ()) seed hint?

/-- The iteration of a seed that is told at its start whether it is out of time. -/
def iterate (campaign : Campaign σ) (seed : UInt64) (hint? : Option HintId) (expired : Bool) :
    StateM (Session σ) Iteration :=
  Timed.within (Deadline.told expired) (campaign.iterateUntil seed hint?)

/-! ### Runs -/

/-- The iterations of some seeds, one after another. -/
def iterateSeeds (campaign : Campaign σ) : List UInt64 → StateM (Timed σ) (List Iteration)
  | [] => pure []
  | seed :: rest => do
    let iteration ← campaign.iterateUntil seed none
    let later ← campaign.iterateSeeds rest
    return iteration :: later

/-- The seed of the iteration with a given index. -/
def seedOf (master : UInt64) (index : Nat) : UInt64 :=
  Random.iterationSeed master (UInt64.ofNat index)

/-- The seeds of the first iterations of a run. -/
def seeds (master : UInt64) (count : Nat) : List UInt64 :=
  (List.range count).map (seedOf master)

/-- What the iterations of some seeds come to in a run with a time limit. -/
def outcomesUntil (campaign : Campaign σ) (clock : Clock) (limit? : Option Duration)
    (seeds : List UInt64) : StateM (Session σ) (List Iteration) :=
  Timed.within (limit?.map (.after clock)) (campaign.iterateSeeds seeds)

/-- Runs the iterations whose seeds derive from a master seed, by a clock. -/
def runUntil (campaign : Campaign σ) (clock : Clock) (master : UInt64) (budget : Budget) :
    StateM (Session σ) Summary := do
  let outcomes ← campaign.outcomesUntil clock budget.deadline (seeds master budget.iterations)
  return outcomes.foldl Summary.record .empty

/-- Runs the iterations whose seeds derive from a master seed while the clock stands still. -/
def run (campaign : Campaign σ) (master : UInt64) (budget : Budget) :
    StateM (Session σ) Summary :=
  campaign.runUntil (fun _ => 0) master budget

end Campaign

end HintFuzz
