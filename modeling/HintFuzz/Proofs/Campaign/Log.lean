import HintFuzz.Proofs.Campaign.Schedule
import HintFuzz.Proofs.Finding.Log

/-!
# The log of a campaign

Whatever the compiler and the engines do, and whatever the clock shows on the way, an iteration
adds the finding that it comes to to the end of the log, if it comes to one, and changes nothing
before it (`Campaign.iterateAround_log`).  So the lines that steps add are those of the findings
that their iterations come to, and a summary counts them (`Campaign.keepsLog`).
-/

namespace HintFuzz

variable {σ : Type}

/-- The bytes of the log of a session, in a file that held some before. -/
def Session.logBytes (earlier : Bytes) (session : Session σ) : Bytes :=
  earlier ++ session.log.flatMap Finding.Log.entry

/-- The findings of a log that grew at its end are the last lines of its file. -/
theorem Session.byteLines_logBytes {session after : Session σ} {added : List Finding}
    (grown : after.log = session.log ++ added) {earlier : Bytes}
    (closed : Text.Closed 10 earlier) :
    Text.byteLines (after.logBytes earlier) =
      Text.byteLines (session.logBytes earlier) ++ added.map Finding.Log.lineBytes := by
  rw [logBytes, logBytes, Finding.Log.byteLines_append closed, Finding.Log.byteLines_append closed,
    grown, List.map_append, List.append_assoc]

namespace Campaign

variable {campaign : Campaign σ} {session after : Session σ} {iteration : Iteration}

/-- Whichever way it goes, an iteration adds what it commits to the log. -/
theorem Iterates.log {meanwhile : StateM (Bench σ) Unit} {seed : UInt64} {hint? : Option HintId}
    {late : Nat → Bool}
    (iterates : campaign.Iterates meanwhile seed hint? late session iteration after) :
    after.log = session.log ++ iteration.committed := by
  cases iterates with
  | stopped stop => exact (List.append_nil _).symm
  | unplanned go meets unplanned => exact (List.append_nil _).symm
  | unwritten go meets planned unwritten => exact (List.append_nil _).symm
  | halted writes stop => exact (List.append_nil _).symm
  | rejected writes goOn compiled concluded => rfl
  | interrupted writes goOn compiled stop => exact (List.append_nil _).symm
  | judged writes goOn compiled goFurther judged concluded => rfl

/-- So it does at whatever point of a run it is taken. -/
theorem iterateAround_log {meanwhile : StateM (Bench σ) Unit} {seed : UInt64}
    {hint? : Option HintId} {timed last : Timed σ}
    (ran : (campaign.iterateAround meanwhile seed hint?).run timed = (iteration, last)) :
    last.session.log = timed.session.log ++ iteration.committed :=
  (iterates_of_run ran).log

/-! ### Iterations in turn -/

/-- An iteration as a worker takes it: the seed, the hint that is given, what others do around the
engines until it is planned, and the deadline of its run as it stands by then. -/
structure Turn (σ : Type) where
  seed : UInt64
  hint? : Option HintId
  meanwhile : StateM (Bench σ) Unit
  deadline? : Option Deadline

/-- Takes iterations one after another: what each of them comes to. -/
def takeTurns (campaign : Campaign σ) : List (Turn σ) → StateM (Session σ) (List Iteration)
  | [] => pure []
  | turn :: rest => do
    let iteration ← Timed.within turn.deadline?
      (campaign.iterateAround turn.meanwhile turn.seed turn.hint?)
    let later ← campaign.takeTurns rest
    return iteration :: later

/-- Turns are the first one and the others behind it. -/
theorem takeTurns_cons_run {turn : Turn σ} {rest : List (Turn σ)} {between : Timed σ}
    {later : List Iteration}
    (first : (campaign.iterateAround turn.meanwhile turn.seed turn.hint?).run
      ⟨session, turn.deadline?⟩ = (iteration, between))
    (others : (campaign.takeTurns rest).run between.session = (later, after)) :
    (campaign.takeTurns (turn :: rest)).run session = (iteration :: later, after) := by
  unfold takeTurns
  rw [run_bind_of_run (Timed.within_run first), run_bind_of_run others]
  rfl

/-- Iterations in turn add what they commit to the log, in their order. -/
theorem takeTurns_log {turns : List (Turn σ)} {outcomes : List Iteration}
    (ran : (campaign.takeTurns turns).run session = (outcomes, after)) :
    after.log = session.log ++ outcomes.flatMap Iteration.committed ∧
      outcomes.length = turns.length := by
  induction turns generalizing session outcomes with
  | nil =>
      cases ran
      exact ⟨(List.append_nil _).symm, rfl⟩
  | cons turn rest ih =>
      rcases first : (campaign.iterateAround turn.meanwhile turn.seed turn.hint?).run
        ⟨session, turn.deadline?⟩ with ⟨iteration, between⟩
      rcases others : (campaign.takeTurns rest).run between.session with ⟨later, last⟩
      rw [takeTurns_cons_run first others] at ran
      cases ran
      obtain ⟨grown, counted⟩ := ih others
      refine ⟨?_, congrArg Nat.succ counted⟩
      rw [grown, iterateAround_log first, List.flatMap_cons, List.append_assoc]

/-- A row of iterations within one deadline is taken in turn, each iteration with the deadline as
those before it have left it. -/
theorem exists_turns {seeds : List UInt64} {timed last : Timed σ} {outcomes : List Iteration}
    (ran : (campaign.iterateSeeds seeds).run timed = (outcomes, last)) :
    ∃ turns : List (Turn σ), turns.map Turn.seed = seeds ∧
      (campaign.takeTurns turns).run timed.session = (outcomes, last.session) := by
  induction seeds generalizing timed outcomes with
  | nil =>
      cases ran
      exact ⟨[], rfl, rfl⟩
  | cons seed rest ih =>
      rcases first : (campaign.iterateUntil seed none).run timed with ⟨iteration, between⟩
      rcases others : (campaign.iterateSeeds rest).run between with ⟨later, after⟩
      rw [iterateSeeds_cons_run first others] at ran
      cases ran
      obtain ⟨turns, same, taken⟩ := ih others
      let turn : Turn σ := ⟨seed, none, pure (), timed.deadline?⟩
      exact ⟨turn :: turns, congrArg (seed :: ·) same, takeTurns_cons_run first taken⟩

/-- So a row of iterations adds what it commits, too. -/
theorem iterateSeeds_log {seeds : List UInt64} {timed last : Timed σ} {outcomes : List Iteration}
    (ran : (campaign.iterateSeeds seeds).run timed = (outcomes, last)) :
    last.session.log = timed.session.log ++ outcomes.flatMap Iteration.committed ∧
      outcomes.length = seeds.length := by
  obtain ⟨turns, rfl, taken⟩ := exists_turns ran
  obtain ⟨grown, counted⟩ := takeTurns_log taken
  exact ⟨grown, counted.trans (List.length_map _).symm⟩

/-- And so do the iterations of a run, whatever its clock and its time limit. -/
theorem outcomesUntil_log {clock : Clock} {limit? : Option Duration} {seeds : List UInt64}
    {outcomes : List Iteration}
    (ran : (campaign.outcomesUntil clock limit? seeds).run session = (outcomes, after)) :
    after.log = session.log ++ outcomes.flatMap Iteration.committed ∧
      outcomes.length = seeds.length := by
  rcases row : (campaign.iterateSeeds seeds).run ⟨session, limit?.map (.after clock)⟩ with
    ⟨outcomes', last⟩
  cases ran.symm.trans (Timed.within_run row)
  exact iterateSeeds_log row

/-! ### Steps -/

/-- What can be done with a campaign. -/
inductive Step
  | run (master : UInt64) (budget : Budget)
  | iterate (seed : UInt64) (hint? : Option HintId)
  /-- Sets or clears the flag. -/
  | cancel (set : Bool)

/-- What a step answers. -/
inductive Answer
  | summary (summary : Summary)
  | iteration (iteration : Iteration)
  | done

/-- Takes a step.  A run goes by the clock. -/
def Step.take (campaign : Campaign σ) (clock : Clock) : Step → StateM (Session σ) Answer
  | run master budget => do return .summary (← campaign.runUntil clock master budget)
  | iterate seed hint? => do return .iteration (← campaign.iterate seed hint? false)
  | cancel set => do
    modify fun session => { session with bench := { session.bench with cancelled := set } }
    return .done

/-- Takes steps one after another, each with its own clock. -/
def takeSteps (campaign : Campaign σ) : List (Clock × Step) → StateM (Session σ) (List Answer)
  | [] => pure []
  | (clock, step) :: rest => do
    let answer ← step.take campaign clock
    let later ← campaign.takeSteps rest
    return answer :: later

/-- What the iterations of a step come to. -/
def Step.outcomes (campaign : Campaign σ) (clock : Clock) (session : Session σ) :
    Step → List Iteration
  | run master budget =>
    ((campaign.outcomesUntil clock budget.deadline (seeds master budget.iterations)).run session).1
  | iterate seed hint? => [((campaign.iterate seed hint? false).run session).1]
  | cancel _ => []

/-- What the iterations of each step come to, one step after another. -/
def outcomes (campaign : Campaign σ) : Session σ → List (Clock × Step) → List (List Iteration)
  | _, [] => []
  | session, (clock, step) :: rest =>
    step.outcomes campaign clock session ::
      campaign.outcomes ((step.take campaign clock).run session).2 rest

/-- An answer tells what the iterations of its step come to: a run counts them. -/
def Answer.Tells : Answer → List Iteration → Prop
  | .summary counted, outcomes => counted = .ofIterations outcomes
  | .iteration taken, outcomes => outcomes = [taken]
  | .done, outcomes => outcomes = []

/-- Steps are the first one and the others behind it. -/
theorem takeSteps_cons_run {clock : Clock} {step : Step} {rest : List (Clock × Step)}
    {middle : Session σ} {answer : Answer} {later : List Answer}
    (first : (step.take campaign clock).run session = (answer, middle))
    (others : (campaign.takeSteps rest).run middle = (later, after)) :
    (campaign.takeSteps ((clock, step) :: rest)).run session = (answer :: later, after) := by
  unfold takeSteps
  rw [run_bind_of_run first, run_bind_of_run others]
  rfl

/-- A step answers what its iterations come to and adds their findings to the log, in their
order. -/
theorem Step.take_log {clock : Clock} {step : Step} {answer : Answer}
    (ran : (step.take campaign clock).run session = (answer, after)) :
    answer.Tells (step.outcomes campaign clock session) ∧
      after.log =
        session.log ++ (step.outcomes campaign clock session).flatMap Iteration.committed := by
  cases step with
  | run master budget =>
      rcases taken : (campaign.outcomesUntil clock budget.deadline
        (seeds master budget.iterations)).run session with ⟨outcomes, last⟩
      have same : Step.outcomes campaign clock session (.run master budget) = outcomes :=
        congrArg Prod.fst taken
      unfold take at ran
      rw [run_bind_of_run (runUntil_run taken)] at ran
      cases ran
      rw [same]
      exact ⟨rfl, (outcomesUntil_log taken).1⟩
  | iterate seed hint? =>
      rcases taken : (campaign.iterate seed hint? false).run session with ⟨iteration, last⟩
      have same : Step.outcomes campaign clock session (.iterate seed hint?) = [iteration] :=
        congrArg (fun taken : Iteration × Session σ => [taken.1]) taken
      unfold take at ran
      rw [run_bind_of_run taken] at ran
      cases ran
      rw [same, List.flatMap_singleton]
      exact ⟨rfl, (iterates_of_run_iterate taken).log⟩
  | cancel set =>
      cases ran
      exact ⟨rfl, (List.append_nil _).symm⟩

/-- Steps add the findings of all their iterations, step after step. -/
theorem takeSteps_log {steps : List (Clock × Step)} {answers : List Answer}
    (ran : (campaign.takeSteps steps).run session = (answers, after)) :
    List.Forall₂ Answer.Tells answers (campaign.outcomes session steps) ∧
      after.log =
        session.log ++ (campaign.outcomes session steps).flatten.flatMap Iteration.committed := by
  induction steps generalizing session answers with
  | nil =>
      cases ran
      exact ⟨.nil, (List.append_nil _).symm⟩
  | cons step rest ih =>
      obtain ⟨clock, step⟩ := step
      rcases first : (step.take campaign clock).run session with ⟨answer, between⟩
      rcases others : (campaign.takeSteps rest).run between with ⟨later, last⟩
      rw [takeSteps_cons_run first others] at ran
      cases ran
      obtain ⟨tells, grown⟩ := Step.take_log first
      obtain ⟨tellLater, grownLater⟩ := ih others
      have next : ((step.take campaign clock).run session).2 = between := congrArg Prod.snd first
      rw [outcomes, next]
      refine ⟨.cons tells tellLater, ?_⟩
      rw [grownLater, grown, List.flatten_cons, List.flatMap_append, List.append_assoc]

/-! ### Counting the lines -/

/-- The findings of a summary are those that were committed. -/
theorem length_committed (outcomes : List Iteration) :
    (outcomes.flatMap Iteration.committed).length = outcomes.countP Iteration.isFinding := by
  induction outcomes with
  | nil => rfl
  | cons outcome rest ih =>
      rw [List.flatMap_cons, List.length_append, ih, List.countP_cons, Nat.add_comm]
      cases outcome <;> rfl

/-- What the log and the summaries of a campaign say of its iterations. -/
structure KeepsLog (campaign : Campaign σ) : Prop where
  /-- An iteration adds its finding, or nothing, whatever the deadline of its run is and whatever
  others do meanwhile. -/
  iteration : ∀ meanwhile seed hint? (timed last : Timed σ) iteration,
    (campaign.iterateAround meanwhile seed hint?).run timed = (iteration, last) →
    match iteration with
    | .finding record => last.session.log = timed.session.log ++ [record]
    | _ => last.session.log = timed.session.log
  /-- Iterations in a row, within one deadline, add their findings in their order. -/
  row : ∀ seeds (timed last : Timed σ) outcomes,
    (campaign.iterateSeeds seeds).run timed = (outcomes, last) →
    last.session.log = timed.session.log ++ outcomes.flatMap Iteration.committed ∧
      outcomes.length = seeds.length
  /-- A step answers what its iterations come to and adds the lines of their findings at the end of
  the log, whatever its clock shows. -/
  step : ∀ clock (step : Step) (session after : Session σ) answer,
    (step.take campaign clock).run session = (answer, after) →
    let outcomes := step.outcomes campaign clock session
    let found := outcomes.flatMap Iteration.committed
    answer.Tells outcomes ∧ ∀ earlier : Bytes,
      after.logBytes earlier = session.logBytes earlier ++ found.flatMap Finding.Log.entry ∧
        (Text.Closed 10 earlier → Text.byteLines (after.logBytes earlier) =
          Text.byteLines (session.logBytes earlier) ++ found.map Finding.Log.lineBytes)
  /-- So do steps in a row, each with its own clock. -/
  steps : ∀ steps (session after : Session σ) answers,
    (campaign.takeSteps steps).run session = (answers, after) →
    let outcomes := campaign.outcomes session steps
    let found := outcomes.flatten.flatMap Iteration.committed
    List.Forall₂ Answer.Tells answers outcomes ∧ ∀ earlier : Bytes,
      after.logBytes earlier = session.logBytes earlier ++ found.flatMap Finding.Log.entry ∧
        (Text.Closed 10 earlier → Text.byteLines (after.logBytes earlier) =
          Text.byteLines (session.logBytes earlier) ++ found.map Finding.Log.lineBytes)
  /-- The summary of a run counts its iterations and the lines that it adds. -/
  run : ∀ clock master budget (session after : Session σ) summary,
    (campaign.runUntil clock master budget).run session = (summary, after) →
    summary.iterations = budget.iterations ∧
      ∀ earlier, Text.Closed 10 earlier →
        (Text.byteLines (after.logBytes earlier)).length =
          (Text.byteLines (session.logBytes earlier)).length + summary.findings
  /-- It does so too if workers take the iterations in any order, with whatever their deadline
  tells by then, and count what they come to in any grouping. -/
  workers : ∀ turns (session after : Session σ) outcomes (grouping : Grouping),
    (campaign.takeTurns turns).run session = (outcomes, after) →
    grouping.outcomes.Perm outcomes →
    grouping.summary.iterations = turns.length ∧
      after.log = session.log ++ outcomes.flatMap Iteration.committed ∧
      grouping.summary.findings = (outcomes.flatMap Iteration.committed).length

/-- What was added to a log is at the end of its file. -/
theorem logBytes_of_log {found : List Finding} (grown : after.log = session.log ++ found)
    (earlier : Bytes) :
    after.logBytes earlier = session.logBytes earlier ++ found.flatMap Finding.Log.entry ∧
      (Text.Closed 10 earlier → Text.byteLines (after.logBytes earlier) =
        Text.byteLines (session.logBytes earlier) ++ found.map Finding.Log.lineBytes) := by
  refine ⟨?_, Session.byteLines_logBytes grown⟩
  rw [Session.logBytes, Session.logBytes, grown, List.flatMap_append, List.append_assoc]

/-- **The log and the summary agree**, whatever the compiler and the engines do and whenever a
deadline passes. -/
theorem keepsLog (campaign : Campaign σ) : campaign.KeepsLog where
  iteration meanwhile seed hint? timed last iteration ran := by
    have grown := iterateAround_log ran
    cases iteration with
    | finding record => exact grown
    | _ => exact grown.trans (List.append_nil _)
  row seeds timed last outcomes ran := iterateSeeds_log ran
  step clock step session after answer ran := by
    obtain ⟨tells, grown⟩ := Step.take_log ran
    exact ⟨tells, logBytes_of_log grown⟩
  steps steps session after answers ran := by
    obtain ⟨tells, grown⟩ := takeSteps_log ran
    exact ⟨tells, logBytes_of_log grown⟩
  run clock master budget session after summary ran := by
    rcases taken : (campaign.outcomesUntil clock budget.deadline
      (seeds master budget.iterations)).run session with ⟨outcomes, last⟩
    cases ran.symm.trans (runUntil_run taken)
    obtain ⟨grown, counted⟩ := outcomesUntil_log taken
    have tallies := Summary.tallies_ofIterations outcomes
    refine ⟨?_, fun earlier closed => ?_⟩
    · rw [tallies.iterations, counted, seeds, List.length_map, List.length_range]
    · rw [Session.byteLines_logBytes grown closed, List.length_append, List.length_map,
        length_committed, tallies.findings]
  workers turns session after outcomes grouping ran same := by
    obtain ⟨grown, counted⟩ := takeTurns_log ran
    have tallies := Summary.tallies_ofIterations outcomes
    rw [grouping.summary_eq_sum, Summary.ofIterations_perm same]
    refine ⟨?_, grown, ?_⟩
    · rw [tallies.iterations, counted]
    · rw [tallies.findings, length_committed]

/-- A run of five iterations whose deadline is over when the artifact of the third one comes back:
the first one has found something and the second one was skipped. -/
theorem tallying_keepsLog :
    ∃ summary after, (tallying.runUntil id 6 ⟨5, some ⟨7⟩⟩).run ⟨⟨0, false⟩, []⟩ = (summary, after) ∧
      summary = ⟨5, 0, 1, 3, .zero, ⟨0, 0, 1, 0, 0, 0, 0, 0⟩⟩ ∧
        (Text.byteLines (after.logBytes [])).length = 1 := by
  rcases ran : (tallying.runUntil id 6 ⟨5, some ⟨7⟩⟩).run ⟨⟨0, false⟩, []⟩ with ⟨summary, after⟩
  have counted : summary = ⟨5, 0, 1, 3, .zero, ⟨0, 0, 1, 0, 0, 0, 0, 0⟩⟩ :=
    (congrArg Prod.fst ran).symm.trans (by decide +kernel)
  obtain ⟨-, lines⟩ := (keepsLog tallying).run id 6 ⟨5, some ⟨7⟩⟩ _ _ _ ran
  refine ⟨summary, after, rfl, counted, ?_⟩
  have closed : Text.Closed (10 : UInt8) [] := fun _ => nofun
  rw [lines [] closed, counted]
  rfl

end Campaign

end HintFuzz
