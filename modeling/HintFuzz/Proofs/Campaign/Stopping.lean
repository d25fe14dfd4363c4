import HintFuzz.Config.Campaign
import HintFuzz.Proofs.Campaign.Log
import HintFuzz.Proofs.Campaign.Watching

/-!
# Stopped runs

A run or an iteration that is stopped before it starts runs nothing and changes nothing: it answers
that all of it was cancelled.  So does the rest of a run once an iteration has left the flag set.
Deadlines leave the flag alone, and a run that is out of time can be left out of a sequence of
steps without any other step's answering something else (`Campaign.stoppingRule`).

The flag is changed by the compiler and by the engines, and by nothing else that an iteration does:
neither by asking whether to go on nor by a deadline that is over (`Campaign.keeps_iterateSeeds`).
A flag that the compiler sets is still set when the iteration ends (`Campaign.Iterates.bench`).  A
command cannot reach the flag, whatever host runs it (`Config.runUntil_cancelled`).
-/

namespace HintFuzz

section Flag

/-! ### Who changes the flag -/

variable {σ α : Type} {set : Bool}

/-- What leaves the flag of a bench alone leaves that of a session alone. -/
theorem Keeps.onBench {action : StateM (Bench σ) α}
    (keeps : Keeps (fun bench => bench.cancelled = set) action) :
    Keeps (fun session : Session σ => session.bench.cancelled = set) (Session.onBench action) :=
  fun session start => keeps session.bench start

/-- What leaves the flag of a session alone does so beside a deadline. -/
theorem Keeps.onSession {action : StateM (Session σ) α}
    (keeps : Keeps (fun session => session.bench.cancelled = set) action) :
    Keeps (fun timed : Timed σ => timed.session.bench.cancelled = set) (Timed.onSession action) :=
  fun timed start => keeps timed.session start

namespace Campaign

variable {campaign : Campaign σ} {session : Session σ}

private theorem keeps_stopped :
    Keeps (fun timed : Timed σ => timed.session.bench.cancelled = set) Timed.stopped := by
  intro timed start
  obtain ⟨stop, deadline?, asked⟩ := Timed.exists_stopped_run timed
  rw [asked]
  exact start

private theorem keeps_conclude (campaign : Campaign σ) (seed : UInt64) (plan : Plan) (text : String)
    (verdict : Verdict) : Keeps (fun session => session.bench.cancelled = set)
      (campaign.conclude seed plan text verdict) := by
  intro session start
  rw [conclude_run]
  exact start

/-- If neither the compiler nor an engine changes the flag, no iteration does, whatever its
deadline. -/
theorem keeps_iterateSeeds
    (compiler : ∀ source, Keeps (fun bench => bench.cancelled = set)
      (campaign.compiler.compile source campaign.compileTimeout))
    (engines : ∀ slot artifact, Keeps (fun bench => bench.cancelled = set)
      ((campaign.judge.engine slot).run artifact campaign.judge.timeout))
    (seeds : List UInt64) :
    Keeps (fun timed => timed.session.bench.cancelled = set) (campaign.iterateSeeds seeds) := by
  have judge (artifact : Artifact) : Keeps (fun bench => bench.cancelled = set)
      (campaign.judge.judge artifact) :=
    Judge.keeps_judge fun slot => engines slot artifact
  have alike : Alike (fun timed timed' => timed = timed' ∧ timed.session.bench.cancelled = set)
      campaign campaign :=
    { catalog := rfl
      stopped := keeps_iff_tracks.mp keeps_stopped
      compile := fun text => keeps_iff_tracks.mp (compiler text).onBench.onSession
      judge := fun artifact => keeps_iff_tracks.mp (judge artifact).onBench.onSession
      conclude := fun seed plan text verdict =>
        keeps_iff_tracks.mp (keeps_conclude campaign seed plan text verdict).onSession }
  exact keeps_iff_tracks.mpr (alike.iterateSeeds seeds)

/-- If the compiler sets the flag, nothing changes it any more in that iteration: no engine is
run. -/
theorem Iterates.bench {late : Nat → Bool} {seed : UInt64} {hint? : Option HintId} {plan : Plan}
    {text : String} {answer : Except CompileFault Artifact} {between : Bench σ}
    {iteration : Iteration} {after : Session σ}
    (iterates : campaign.Iterates (pure ()) seed hint? late session iteration after)
    (planned : campaign.catalog.plan seed hint? = .ok plan)
    (written : plan.wrapper.instantiate plan.values = .ok text)
    (compiled : (campaign.compiler.compile text campaign.compileTimeout).run session.bench =
      (answer, between)) (set : between.cancelled = true) :
    after.bench = session.bench ∨ after.bench = between := by
  have compiledAgain {plan' : Plan} {text' : String} {met between' : Bench σ}
      {answer' : Except CompileFault Artifact}
      (writes : campaign.Writes (pure ()) seed hint? late session plan' text' met)
      (compiled' : (campaign.compiler.compile text' campaign.compileTimeout).run met =
        (answer', between')) : between' = between := by
    cases writes.meets
    cases writes.planned.symm.trans planned
    cases writes.written.symm.trans written
    exact congrArg Prod.snd (compiled'.symm.trans compiled)
  cases iterates with
  | stopped stop => exact .inl rfl
  | unplanned go meets unplanned =>
      cases meets
      exact .inl rfl
  | unwritten go meets planned unwritten =>
      cases meets
      exact .inl rfl
  | halted writes stop =>
      cases writes.meets
      exact .inl rfl
  | rejected writes goOn compiled concluded => exact .inr (compiledAgain writes compiled)
  | interrupted writes goOn compiled stop => exact .inr (compiledAgain writes compiled)
  | judged writes goOn compiled goFurther judged concluded =>
      rw [compiledAgain writes compiled, set] at goFurther
      cases goFurther

end Campaign

end Flag

variable {σ : Type}

/-! ### Steps that are stopped -/

/-- The summary of a run all of whose iterations were cancelled. -/
def Summary.ofCancelled (count : Nat) : Summary :=
  ⟨count, 0, 0, count, .zero, .zero⟩

namespace Campaign

/-- The step is a run or an iteration that is stopped before it starts. -/
def Step.StopsAtOnce (clock : Clock) (session : Session σ) : Step → Prop
  | run _ budget => Campaign.StopsAtOnce clock budget.deadline session
  | iterate _ _ => session.bench.cancelled = true
  | cancel _ => False

/-- The answer of a run or an iteration that was cancelled. -/
def Step.cancelledAnswer : Step → Answer
  | run _ budget => .summary (.ofCancelled budget.iterations)
  | iterate _ _ => .iteration .cancelled
  | cancel _ => .done

end Campaign

/-- What stopped steps do to the answers, the log, the flag and the calls of a campaign, whatever
its compiler and its engines do. -/
structure Campaign.StoppingRule (campaign : Campaign σ) : Prop where
  /-- By a clock that stands still a run is told at its start whether it is out of time. -/
  still : ∀ now master budget session,
    (campaign.runUntil (fun _ => now) master budget).run session =
      (campaign.run master budget).run session
  /-- Watching changes nothing. -/
  watched : ∀ steps session, ∃ calls, watch (campaign.recorded.takeSteps steps) session =
    (((campaign.takeSteps steps).run session).1, ((campaign.takeSteps steps).run session).2, calls)
  /-- What is stopped before it starts is cancelled as a whole, and nothing else comes of it. -/
  inert : ∀ clock step session, Step.StopsAtOnce clock session step →
    watch (step.take campaign.recorded clock) session = (step.cancelledAnswer, session, [])
  /-- So it is with any number of workers, which take the iterations in any order and count
  them in any grouping. -/
  workers : ∀ clock limit? seeds session, StopsAtOnce clock limit? session →
    ∃ outcomes, watch (campaign.recorded.outcomesUntil clock limit? seeds) session =
        (outcomes, session, []) ∧ (∀ outcome ∈ outcomes, outcome = .cancelled) ∧
      ∀ grouping : Grouping, grouping.outcomes.Perm outcomes →
        grouping.summary = .ofCancelled seeds.length
  /-- Once the flag is set, all steps up to the next one that clears it are cancelled. -/
  silent : ∀ steps session, session.bench.cancelled = true →
    (∀ clock, (clock, Step.cancel false) ∉ steps) →
      watch (campaign.recorded.takeSteps steps) session =
        (steps.map fun step => step.2.cancelledAnswer, session, [])
  /-- A flag that the compiler sets is set when the iteration ends. -/
  compiling : ∀ deadline? seed hint? session plan text answer between,
    campaign.catalog.plan seed hint? = .ok plan →
      plan.wrapper.instantiate plan.values = .ok text →
        (campaign.compiler.compile text campaign.compileTimeout).run session.bench =
            (answer, between) → between.cancelled = true →
          let after := ((campaign.iterateUntil seed hint?).run ⟨session, deadline?⟩).2.session
          after.bench = session.bench ∨ after.bench = between
  /-- Once an iteration of a run has left the flag set, the later ones are cancelled. -/
  later : ∀ clock limit? master count more session outcomes middle calls,
    watch (campaign.recorded.outcomesUntil clock limit? (seeds master count)) session =
        (outcomes, middle, calls) → middle.bench.cancelled = true →
      watch (campaign.recorded.outcomesUntil clock limit? (seeds master (count + more))) session =
          (outcomes ++ List.replicate more .cancelled, middle, calls) ∧
        watch (campaign.recorded.runUntil clock master ⟨count + more, limit?⟩) session =
          ((Summary.ofIterations outcomes).merge (.ofCancelled more), middle, calls)
  /-- Asking whether to go on, for which the deadline is read, changes nothing of the session. -/
  asking : ∀ timed : Timed σ, (Timed.stopped.run timed).2.session = timed.session
  /-- A deadline never changes the flag: what neither the compiler nor an engine changes, no run
  changes. -/
  flag : (∀ source bench, ((campaign.compiler.compile source campaign.compileTimeout).run
      bench).2.cancelled = bench.cancelled) →
    (∀ slot artifact bench, (((campaign.judge.engine slot).run artifact campaign.judge.timeout).run
      bench).2.cancelled = bench.cancelled) →
      ∀ clock master budget session,
        ((campaign.runUntil clock master budget).run session).2.bench.cancelled =
          session.bench.cancelled
  /-- Leaving out a run that is out of time changes no other step's answer. -/
  removed : ∀ before later clock master iterations limit session,
    clock 0 + limit.nanoseconds ≤ clock 1 →
      ∃ first rest after calls, first.length = before.length ∧
        watch (campaign.recorded.takeSteps (before ++ later)) session =
          (first ++ rest, after, calls) ∧
        watch (campaign.recorded.takeSteps
            (before ++ (clock, .run master ⟨iterations, some limit⟩) :: later)) session =
          (first ++ .summary (.ofCancelled iterations) :: rest, after, calls)

/-! ### Cancelled runs -/

private theorem Summary.ofIterations_cancelled (count : Nat) :
    ofIterations (List.replicate count .cancelled) = .ofCancelled count := by
  induction count with
  | zero => rfl
  | succ count ih =>
      rw [List.replicate_succ, ofIterations, List.map_cons, List.sum_cons]
      change (Summary.ofIteration .cancelled).merge (ofIterations _) = _
      rw [ih]
      simp only [merge_eq, ofIteration, ofCancelled, Nat.zero_add, Nat.add_comm 1]
      rfl

namespace Campaign

/-! ### Steps on record -/

private theorem Step.tracks_take (campaign : Campaign σ) (clock : Clock) (step : Step) :
    Tracks (Session.unrecorded · = ·) (step.take campaign.recorded clock)
      (step.take campaign clock) := by
  cases step with
  | run master budget =>
      refine Tracks.bind ?_ fun _ => .pure _
      exact (tracks_outcomesUntil_recorded campaign clock _ _).bind fun _ => .pure _
  | iterate seed hint? => exact (tracks_iterate_recorded campaign seed hint? _).bind fun _ => .pure _
  | cancel set =>
      rintro session _ rfl
      exact ⟨rfl, rfl⟩

private theorem tracks_takeSteps (campaign : Campaign σ) (steps : List (Clock × Step)) :
    Tracks (Session.unrecorded · = ·) (campaign.recorded.takeSteps steps)
      (campaign.takeSteps steps) := by
  induction steps with
  | nil => exact .pure _
  | cons step rest ih =>
      refine (step.2.tracks_take campaign step.1).bind fun answer => ?_
      exact ih.bind fun later => .pure _

/-! ### Steps that are stopped -/

variable {campaign : Campaign σ} {clock : Clock} {session middle after : Session σ} {step : Step}

private theorem runUntil_run_of_stopped {budget : Budget}
    (stops : StopsAtOnce clock budget.deadline session)
    (master : UInt64) : (campaign.runUntil clock master budget).run session =
      (.ofCancelled budget.iterations, session) := by
  have taken : (campaign.outcomesUntil clock budget.deadline
      (seeds master budget.iterations)).run session = _ := stops.outcomesUntil_run _
  have count : (seeds master budget.iterations).length = budget.iterations := by
    rw [seeds, List.length_map, List.length_range]
  rw [runUntil_run taken, count, Summary.ofIterations_cancelled]

private theorem Step.take_run_of_stopped (stops : step.StopsAtOnce clock session) :
    (step.take campaign clock).run session = (step.cancelledAnswer, session) := by
  cases step with
  | run master budget =>
      unfold take
      rw [run_bind_of_run (runUntil_run_of_stopped stops master)]
      rfl
  | iterate seed hint? =>
      have stop : (session.bench.cancelled || false) = true := (Bool.or_false _).trans stops
      have stopped : campaign.Iterates (pure ()) seed hint? (fun _ => false) session .cancelled
          session := .stopped stop
      unfold take
      rw [run_bind_of_run stopped.run]
      rfl
  | cancel set => exact stops.elim

private theorem takeSteps_append_run {before rest : List (Clock × Step)}
    {answers later : List Answer}
    (first : (campaign.takeSteps before).run session = (answers, middle))
    (others : (campaign.takeSteps rest).run middle = (later, after)) :
    (campaign.takeSteps (before ++ rest)).run session = (answers ++ later, after) ∧
      answers.length = before.length := by
  induction before generalizing session answers with
  | nil =>
      cases first
      exact ⟨others, rfl⟩
  | cons step before ih =>
      obtain ⟨clock, step⟩ := step
      rcases here : (step.take campaign clock).run session with ⟨answer, next⟩
      rcases there : (campaign.takeSteps before).run next with ⟨more, last⟩
      rw [takeSteps_cons_run here there] at first
      cases first
      obtain ⟨ran, counted⟩ := ih there
      exact ⟨takeSteps_cons_run here ran, congrArg Nat.succ counted⟩

/-- With the flag set, nothing happens until it is cleared. -/
theorem takeSteps_run_of_set {steps : List (Clock × Step)} (set : session.bench.cancelled = true)
    (uncleared : ∀ clock, (clock, Step.cancel false) ∉ steps) :
    (campaign.takeSteps steps).run session =
      (steps.map fun step => step.2.cancelledAnswer, session) := by
  induction steps with
  | nil => rfl
  | cons step rest ih =>
      obtain ⟨clock, step⟩ := step
      have others := ih fun clock member => uncleared clock (List.mem_cons_of_mem _ member)
      refine takeSteps_cons_run ?_ others
      cases step with
      | run master budget => exact Step.take_run_of_stopped (.inl set)
      | iterate seed hint? =>
          have stops : Step.StopsAtOnce clock session (.iterate seed hint?) := set
          exact Step.take_run_of_stopped stops
      | cancel flag =>
          cases flag with
          | false => exact absurd List.mem_cons_self (uncleared clock)
          | true =>
              have same : session.bench = { session.bench with cancelled := true } := by
                rw [← set]
              exact Prod.ext rfl (congrArg (Session.mk · session.log) same.symm)

/-! ### Runs that are stopped on the way -/

/-- Once the flag is set, the rest of a run is cancelled. -/
theorem outcomesUntil_append_run {limit? : Option Duration} {first : List UInt64}
    {outcomes : List Iteration}
    (taken : (campaign.outcomesUntil clock limit? first).run session = (outcomes, middle))
    (set : middle.bench.cancelled = true) (rest : List UInt64) :
    (campaign.outcomesUntil clock limit? (first ++ rest)).run session =
      (outcomes ++ List.replicate rest.length .cancelled, middle) := by
  rcases ran : (campaign.iterateSeeds first).run ⟨session, limit?.map (.after clock)⟩ with
    ⟨outcomes', timed⟩
  have whole (more : List UInt64) (last : List Iteration) (timed' : Timed σ)
      (goesOn : (campaign.iterateSeeds more).run timed = (last, timed')) :
      (campaign.outcomesUntil clock limit? (first ++ more)).run session =
        (outcomes' ++ last, timed'.session) := by
    have both := iterateSeeds_append_run ran goesOn
    exact congrArg (fun taken : List Iteration × Timed σ => (taken.1, taken.2.session)) both
  have short := whole [] [] timed rfl
  rw [List.append_nil, List.append_nil, taken] at short
  cases short
  obtain ⟨last?, cancelled⟩ := exists_iterateSeeds_run_of_stopped (.inl set) rest
  exact whole rest _ ⟨timed.session, last?⟩ cancelled

/-- What neither the compiler nor an engine changes, no run changes. -/
theorem runUntil_cancelled
    (compiler : ∀ source bench, ((campaign.compiler.compile source campaign.compileTimeout).run
      bench).2.cancelled = bench.cancelled)
    (engines : ∀ slot artifact bench, (((campaign.judge.engine slot).run artifact
      campaign.judge.timeout).run bench).2.cancelled = bench.cancelled)
    (clock : Clock) (master : UInt64) (budget : Budget) (session : Session σ) :
    ((campaign.runUntil clock master budget).run session).2.bench.cancelled =
      session.bench.cancelled := by
  have keeps : Keeps (fun timed => timed.session.bench.cancelled = session.bench.cancelled)
      (campaign.iterateSeeds (seeds master budget.iterations)) :=
    keeps_iterateSeeds (fun source bench start => (compiler source bench).trans start)
      (fun slot artifact bench start => (engines slot artifact bench).trans start) _
  have ran : (campaign.runUntil clock master budget).run session = _ := runUntil_run rfl
  rw [ran]
  exact keeps ⟨session, budget.deadline.map (.after clock)⟩ rfl

/-! ### The rule -/

/-- **Stopped runs are inert.** -/
theorem stoppingRule (campaign : Campaign σ) : campaign.StoppingRule where
  still := runUntil_still campaign
  watched steps session := exists_watch (tracks_takeSteps campaign steps) session
  inert clock step session stops := by
    have recordedStops : step.StopsAtOnce clock (session.recording []) := by
      cases step <;> exact stops
    exact watch_eq (Step.take_run_of_stopped recordedStops)
  workers clock limit? seeds session stops := by
    have recordedStops : StopsAtOnce clock limit? (session.recording []) := stops
    refine ⟨_, watch_eq (recordedStops.outcomesUntil_run seeds), fun outcome member =>
      List.eq_of_mem_replicate member, fun grouping regrouped => ?_⟩
    rw [grouping.summary_eq_sum, Summary.ofIterations_perm regrouped,
      Summary.ofIterations_cancelled]
  silent steps session set uncleared := watch_eq (takeSteps_run_of_set set uncleared)
  compiling deadline? seed hint? session plan text answer between planned written compiled set := by
    rcases ran : (campaign.iterateUntil seed hint?).run ⟨session, deadline?⟩ with ⟨iteration, last⟩
    exact (iterates_of_run ran).bench planned written compiled set
  later clock limit? master count more session outcomes middle calls taken set := by
    have recordedSet : (middle.recording calls).bench.cancelled = true := set
    have split : seeds master (count + more) =
        seeds master count ++ ((List.range more).map (count + ·)).map (seedOf master) := by
      rw [seeds, List.range_add, List.map_append]
      rfl
    have whole := outcomesUntil_append_run (run_of_watch taken) recordedSet
      (((List.range more).map (count + ·)).map (seedOf master))
    rw [← split, List.length_map, List.length_map, List.length_range] at whole
    refine ⟨watch_eq whole, watch_eq ?_⟩
    have counted : (campaign.recorded.runUntil clock master ⟨count + more, limit?⟩).run
        (session.recording []) = _ := runUntil_run whole
    rw [counted, Summary.ofIterations_append, Summary.ofIterations_cancelled]
  asking timed := by
    obtain ⟨stop, deadline?, asked⟩ := Timed.exists_stopped_run timed
    rw [asked]
  flag := runUntil_cancelled
  removed before later clock master iterations limit session late := by
    rcases ranFirst : (campaign.recorded.takeSteps before).run (session.recording []) with
      ⟨first, middle⟩
    rcases ranRest : (campaign.recorded.takeSteps later).run middle with ⟨rest, after⟩
    have stops : Step.StopsAtOnce clock middle (.run master ⟨iterations, some limit⟩) :=
      .inr ⟨limit, rfl, late⟩
    have withRun := takeSteps_cons_run (Step.take_run_of_stopped stops) ranRest
    obtain ⟨short, counted⟩ := takeSteps_append_run ranFirst ranRest
    obtain ⟨long, -⟩ := takeSteps_append_run ranFirst withRun
    exact ⟨first, rest, after.unrecorded, after.bench.world.2, counted, watch_eq short,
      watch_eq long⟩

/-- A campaign whose compiler cancels the session. -/
def closing : Campaign Nat :=
  { tallying with
    compiler := ⟨fun source _ bench =>
      (.ok ⟨source.toUTF8.toList⟩, { bench with cancelled := true })⟩ }

/-- Nothing runs while the flag is set or once the time is up, nor after an iteration that has set
the flag; clocks leave the flag alone, and a run that is out of time can be left out. -/
theorem tallying_stoppingRule :
    watch ((Step.run 6 ⟨5, none⟩).take tallying.recorded fun _ => 0) ⟨⟨0, true⟩, []⟩ =
        (.summary (.ofCancelled 5), ⟨⟨0, true⟩, []⟩, []) ∧
      watch ((Step.run 6 ⟨5, some ⟨3⟩⟩).take tallying.recorded (3 * ·)) ⟨⟨0, false⟩, []⟩ =
        (.summary (.ofCancelled 5), ⟨⟨0, false⟩, []⟩, []) ∧
      (∃ outcomes middle calls, middle.bench.cancelled = true ∧
        watch (closing.recorded.outcomesUntil id none (seeds 6 5)) ⟨⟨0, false⟩, []⟩ =
          (outcomes ++ List.replicate 4 .cancelled, middle, calls)) ∧
      ((tallying.runUntil id 6 ⟨5, some ⟨3⟩⟩).run ⟨⟨0, false⟩, []⟩).2.bench.cancelled = false ∧
      ∃ first rest after calls, first.length = 1 ∧
        watch (tallying.recorded.takeSteps [(id, .iterate 6 none), (id, .iterate 7 none)])
          ⟨⟨0, false⟩, []⟩ = (first ++ rest, after, calls) ∧
        watch (tallying.recorded.takeSteps [(id, .iterate 6 none), (id, .run 6 ⟨5, some ⟨1⟩⟩),
            (id, .iterate 7 none)]) ⟨⟨0, false⟩, []⟩ =
          (first ++ .summary (.ofCancelled 5) :: rest, after, calls) := by
  have rule := stoppingRule tallying
  refine ⟨?_, ?_, ?_, ?_, ?_⟩
  · exact rule.inert (fun _ => 0) (.run 6 ⟨5, none⟩) ⟨⟨0, true⟩, []⟩ (.inl rfl)
  · exact rule.inert (3 * ·) (.run 6 ⟨5, some ⟨3⟩⟩) ⟨⟨0, false⟩, []⟩
      (.inr ⟨⟨3⟩, rfl, by decide⟩)
  · have set : (watch (closing.recorded.outcomesUntil id none (seeds 6 1))
        ⟨⟨0, false⟩, []⟩).2.1.bench.cancelled = true := by
      decide +kernel
    rcases taken : watch (closing.recorded.outcomesUntil id none (seeds 6 1)) ⟨⟨0, false⟩, []⟩
      with ⟨outcomes, middle, calls⟩
    rw [taken] at set
    have later := (stoppingRule closing).later id none 6 1 4 _ _ _ _ taken set
    exact ⟨outcomes, middle, calls, set, later.1⟩
  · refine rule.flag (fun _ _ => rfl) ?_ id 6 ⟨5, some ⟨3⟩⟩ ⟨⟨0, false⟩, []⟩
    intro slot artifact bench
    cases slot with
    | a => rfl
    | b => rfl
  · exact rule.removed [(id, .iterate 6 none)] [(id, .iterate 7 none)] id 6 5 ⟨1⟩
      ⟨⟨0, false⟩, []⟩ (by decide)

end Campaign

/-! ### Commands -/

/-- On no host does a configured campaign change the flag. -/
theorem Config.runUntil_cancelled (host : Host) (config : Config) (catalog : Catalog)
    (clock : Clock) (master : UInt64) (budget : Budget) (session : Session Files) :
    (((config.campaign host catalog).runUntil clock master budget).run session).2.bench.cancelled =
      session.bench.cancelled := by
  refine Campaign.runUntil_cancelled (fun _ _ => rfl) ?_ clock master budget session
  intro slot artifact bench
  cases slot with
  | a => rfl
  | b => rfl

end HintFuzz
