import HintFuzz.Engine.Outcome
import HintFuzz.Proofs.Monad.Steps

/-!
# How engines and compilers behave

Two things are said about what is run from outside: that its answer depends on its
input only (`Engine.IsFunction`, `Compiler.IsFunction`), and how often it was run.
The second is told by running it *recorded*: a recorded engine does what the
engine does and adds the call to a list beside the world.  The engine is given the
world without the list, so that it cannot tell whether it is recorded.
-/

namespace HintFuzz

variable {σ α : Type}

/-! ### Answers that depend on the input only -/

/-- What an engine gives within a time limit depends on the artifact only. -/
def Engine.IsFunction (engine : Engine σ) (limit : Duration) : Prop :=
  ∃ outcome : Artifact → Outcome, ∀ artifact bench,
    ((engine.run artifact limit).run bench).1 = outcome artifact

/-- What a compiler gives within a time limit depends on the source text only. -/
def Compiler.IsFunction (compiler : Compiler σ) (limit : Duration) : Prop :=
  ∃ answer : String → Except CompileFault Artifact, ∀ source bench,
    ((compiler.compile source limit).run bench).1 = answer source

/-- A compiler that is a function answers the same from another bench. -/
theorem Compiler.IsFunction.run_eq {compiler : Compiler σ} {limit : Duration}
    (isFunction : compiler.IsFunction limit) {source : String} {bench after : Bench σ}
    {answer : Except CompileFault Artifact}
    (compiled : (compiler.compile source limit).run bench = (answer, after)) (bench' : Bench σ) :
    ∃ after', (compiler.compile source limit).run bench' = (answer, after') := by
  obtain ⟨given, answers⟩ := isFunction
  have known : answer = given source :=
    (congrArg Prod.fst compiled).symm.trans (answers source bench)
  exact exists_run_eq ((answers source bench').trans known.symm)

/-! ### Recorded calls -/

/-- A call of the compiler or of an engine, and what came of it. -/
inductive Call
  | compile (source : String) (answer : Except CompileFault Artifact)
  | run (slot : Slot) (artifact : Artifact) (outcome : Outcome)

/-- A bench with a list of calls beside its world. -/
def Bench.recording (bench : Bench σ) (calls : List Call) : Bench (σ × List Call) :=
  ⟨(bench.world, calls), bench.cancelled⟩

/-- Runs something on the world alone and adds the call to the list. -/
def recorded (action : StateM (Bench σ) α) (call : α → Call) :
    StateM (Bench (σ × List Call)) α := fun bench =>
  let (answer, after) := action.run ⟨bench.world.1, bench.cancelled⟩
  (answer, after.recording (bench.world.2 ++ [call answer]))

/-- Recording gives what the action gives and leaves the same world, with one more
call in the list. -/
theorem recorded_run {action : StateM (Bench σ) α} {bench after : Bench σ} {answer : α}
    (ran : action.run bench = (answer, after)) (call : α → Call) (calls : List Call) :
    (recorded action call).run (bench.recording calls) =
      (answer, after.recording (calls ++ [call answer])) := by
  change ((action.run bench).1, (action.run bench).2.recording (calls ++ [call (action.run bench).1]))
    = _
  rw [ran]

/-- An engine whose runs are recorded. -/
def Engine.recorded (slot : Slot) (engine : Engine σ) : Engine (σ × List Call) where
  name := engine.name
  run artifact limit := HintFuzz.recorded (engine.run artifact limit) (.run slot artifact)

end HintFuzz
