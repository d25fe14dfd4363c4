import HintFuzz.Proofs.Campaign.Accounting
import HintFuzz.Proofs.Campaign.Deadline
import HintFuzz.Proofs.Verdict.Confirmation
import Mathlib.Data.List.Range

/-!
# Runs in any order

Workers share the catalog, the flag and the log only.  An iteration is one step of a
worker here: whatever the steps of others leave on the bench, it comes to the same
outcome, provided that the compiler and the engines are functions of what they are
given and nothing cancels the session (`Campaign.IsSteady`).  So the outcomes of a run
are a function of the indices alone (`Campaign.iterateAll_run`), and neither the order
of the iterations nor the grouping of their outcomes shows in the summary
(`Campaign.orderIndependent`).
-/

namespace HintFuzz

variable {σ : Type}

/-! ### What nothing disturbs -/

/-- Something that never cancels the session. -/
def KeepsRunning {α : Type} (action : StateM (Bench σ) α) : Prop :=
  ∀ bench : Bench σ, bench.cancelled = false → (action.run bench).2.cancelled = false

private theorem KeepsRunning.of_run {α : Type} {action : StateM (Bench σ) α} {bench after : Bench σ}
    {answer : α} (keeps : KeepsRunning action) (ran : action.run bench = (answer, after))
    (running : bench.cancelled = false) : after.cancelled = false := by
  have kept := keeps bench running
  rw [ran] at kept
  exact kept

namespace Judge

variable {judge : Judge σ} {artifact : Artifact}

/-- Judging cancels nothing if neither engine does. -/
theorem keepsRunning_judge
    (engines : ∀ slot, KeepsRunning ((judge.engine slot).run artifact judge.timeout)) :
    KeepsRunning (judge.judge artifact) :=
  keeps_judge engines

end Judge

namespace Campaign

/-- A campaign in which nothing but their input decides what the compiler and the
engines give, and none of them cancels the session. -/
structure IsSteady (campaign : Campaign σ) : Prop where
  compiler : campaign.compiler.IsFunction campaign.compileTimeout
  engines : ∀ slot, (campaign.judge.engine slot).IsFunction campaign.judge.timeout
  compiler_keepsRunning : ∀ source,
    KeepsRunning (campaign.compiler.compile source campaign.compileTimeout)
  engines_keepRunning : ∀ slot artifact,
    KeepsRunning ((campaign.judge.engine slot).run artifact campaign.judge.timeout)

/-- An outcome that the iteration of a seed comes to in every session that is not
cancelled.  It commits the outcome's findings and cancels nothing. -/
def Yields (campaign : Campaign σ) (seed : UInt64) (iteration : Iteration) : Prop :=
  ∀ session : Session σ, session.bench.cancelled = false →
    ∃ bench, bench.cancelled = false ∧
      (campaign.iterate seed none false).run session = (iteration, session.concluding bench iteration)

variable {campaign : Campaign σ} {master seed : UInt64} {session : Session σ}

/-- In a steady campaign the outcome of an iteration depends on its seed only. -/
theorem IsSteady.exists_yields (steady : campaign.IsSteady) (seed : UInt64) :
    ∃ iteration, campaign.Yields seed iteration := by
  have go {session : Session σ} (running : session.bench.cancelled = false) :
      (session.bench.cancelled || false) = false := (Bool.or_false _).trans running
  have unchanged (session : Session σ) (reason : SkipReason) :
      session = session.concluding session.bench (.skipped reason) :=
    congrArg (Session.mk session.bench) (List.append_nil _).symm
  cases planned : campaign.catalog.plan seed none with
  | error reason =>
      refine ⟨.skipped reason, fun session running => ⟨session.bench, running, ?_⟩⟩
      rw [← unchanged session reason]
      exact (Iterates.unplanned (go running) rfl planned).run
  | ok plan =>
  cases written : plan.wrapper.instantiate plan.values with
  | error fault =>
      refine ⟨.skipped (.synthesis fault), fun session running => ⟨session.bench, running, ?_⟩⟩
      rw [← unchanged session (.synthesis fault)]
      exact (Iterates.unwritten (go running) rfl planned written).run
  | ok text =>
  obtain ⟨answer, answers⟩ := steady.compiler
  have compile (bench : Bench σ) (running : bench.cancelled = false) :
      ∃ between, between.cancelled = false ∧
        (campaign.compiler.compile text campaign.compileTimeout).run bench =
          (answer text, between) := by
    obtain ⟨between, compiled⟩ := exists_run_eq (answers text bench)
    exact ⟨between, (steady.compiler_keepsRunning text).of_run compiled running, compiled⟩
  cases answered : answer text with
  | error fault =>
      refine ⟨campaign.concluded seed plan text
        (Verdict.ofCompileFault fault plan.wrapper.confidence), fun session running => ?_⟩
      obtain ⟨between, kept, compiled⟩ := compile session.bench running
      rw [answered] at compiled
      exact ⟨between, kept, (Iterates.rejected ⟨go running, rfl, planned, written⟩ (go running)
        compiled rfl).run⟩
  | ok artifact =>
      obtain ⟨outcomes, same⟩ := Judge.exists_execute_of_isFunction steady.engines artifact
      have judgingKeeps : KeepsRunning (campaign.judge.judge artifact) :=
        Judge.keepsRunning_judge fun slot => steady.engines_keepRunning slot artifact
      refine ⟨campaign.concluded seed plan text (Verdict.compare outcomes.1 outcomes.2),
        fun session running => ?_⟩
      obtain ⟨between, kept, compiled⟩ := compile session.bench running
      rw [answered] at compiled
      obtain ⟨last, judged⟩ :=
        exists_run_eq (Judge.judge_of_execute campaign.judge same between)
      have keptOn : last.cancelled = false := judgingKeeps.of_run judged kept
      exact ⟨last, keptOn, (Iterates.judged ⟨go running, rfl, planned, written⟩ (go running)
        compiled ((Bool.or_false _).trans kept) judged rfl).run⟩

/-! ### Iterations in a given order -/

/-- Takes the iterations with the given indices, one after another: what each of them
comes to. -/
def iterateAll (campaign : Campaign σ) (master : UInt64) (expired : Bool) (order : List Nat) :
    StateM (Session σ) (List Iteration) :=
  Timed.within (Deadline.told expired) (campaign.iterateSeeds (order.map (seedOf master)))

/-- Takes iterations, from the one with a given index on, and adds them to a summary. -/
def runFrom (campaign : Campaign σ) (master : UInt64) (expired : Bool) (count index : Nat)
    (summary : Summary) (session : Session σ) : Summary × Session σ :=
  let (outcomes, after) :=
    (campaign.iterateAll master expired (List.range' index count)).run session
  (outcomes.foldl Summary.record summary, after)

/-- The iterations of indices are the first one and the others behind it. -/
theorem iterateAll_cons_run {expired : Bool} {index : Nat} {rest : List Nat}
    {between after : Session σ} {iteration : Iteration} {later : List Iteration}
    (first : (campaign.iterate (seedOf master index) none expired).run session =
      (iteration, between))
    (others : (campaign.iterateAll master expired rest).run between = (later, after)) :
    (campaign.iterateAll master expired (index :: rest)).run session =
      (iteration :: later, after) := by
  rcases row : (campaign.iterateSeeds (rest.map (seedOf master))).run
      ⟨between, Deadline.told expired⟩ with ⟨outcomes, last⟩
  cases others.symm.trans (Timed.within_run row)
  have whole : (campaign.iterateSeeds ((index :: rest).map (seedOf master))).run
      ⟨session, Deadline.told expired⟩ = (iteration :: later, last) :=
    iterateSeeds_cons_run (iterates_of_run_iterate first).run_told row
  exact Timed.within_run whole

/-- In any order, the iterations of a steady campaign come to the outcomes of their
seeds and commit the findings among them. -/
theorem iterateAll_run {outcome : Nat → Iteration}
    (yields : ∀ index, campaign.Yields (seedOf master index) (outcome index))
    (order : List Nat) (running : session.bench.cancelled = false) :
    ∃ bench, bench.cancelled = false ∧
      (campaign.iterateAll master false order).run session =
        (order.map outcome,
          ⟨bench, session.log ++ (order.map outcome).flatMap Iteration.committed⟩) := by
  induction order generalizing session with
  | nil =>
      refine ⟨session.bench, running, ?_⟩
      exact Prod.ext rfl (congrArg (Session.mk session.bench) (List.append_nil _).symm)
  | cons index rest ih =>
      obtain ⟨between, kept, first⟩ := yields index session running
      have going : (session.concluding between (outcome index)).bench.cancelled = false := kept
      obtain ⟨bench, keptOn, others⟩ := ih going
      refine ⟨bench, keptOn, ?_⟩
      rw [iterateAll_cons_run first others, List.map_cons, List.flatMap_cons, ← List.append_assoc]
      rfl

/-! ### The summary of a run -/

/-- What it means for the order of the iterations of a run not to count. -/
structure OrderIndependent (campaign : Campaign σ) (session : Session σ) : Prop where
  /-- The iterations of a run, taken in any order, with their outcomes cut into any
  chunks and the summaries of these merged in any grouping, give the summary of the run. -/
  regrouped : ∀ master count (order : List Nat) (grouping : Grouping),
    order.Perm (List.range count) →
    grouping.outcomes.Perm ((campaign.iterateAll master false order).run session).1 →
      grouping.summary = ((campaign.run master ⟨count, none⟩).run session).1
  /-- They add the same findings to the log, up to their order. -/
  logged : ∀ master count (order : List Nat), order.Perm (List.range count) →
    ∃ found found' : List Finding,
      ((campaign.iterateAll master false order).run session).2.log = session.log ++ found ∧
        ((campaign.run master ⟨count, none⟩).run session).2.log = session.log ++ found' ∧
          found.Perm found'
  /-- A longer run gives the summary of its first iterations, merged with that of the
  others, whatever session the others are taken in. -/
  extended : ∀ master count more (session' : Session σ), session'.bench.cancelled = false →
    ((campaign.run master ⟨count + more, none⟩).run session).1 =
      ((campaign.run master ⟨count, none⟩).run session).1.merge
        (campaign.runFrom master false more count .empty session').1

/-- The summary of consecutive iterations is the sum of their outcomes. -/
theorem runFrom_of_yields {outcome : Nat → Iteration}
    (yields : ∀ index, campaign.Yields (seedOf master index) (outcome index))
    (count index : Nat) (running : session.bench.cancelled = false) :
    ∃ bench, campaign.runFrom master false count index .empty session =
      (Summary.ofIterations ((List.range' index count).map outcome),
        ⟨bench, session.log ++
          ((List.range' index count).map outcome).flatMap Iteration.committed⟩) := by
  obtain ⟨bench, -, ran⟩ := iterateAll_run yields (List.range' index count) running
  refine ⟨bench, ?_⟩
  rw [runFrom, ran]
  exact Prod.ext (Grouping.chunk _).summary_eq_sum rfl

/-- A run without a deadline takes its iterations from the first index on. -/
theorem run_eq_runFrom (master : UInt64) (count : Nat) (session : Session σ) :
    (campaign.run master ⟨count, none⟩).run session =
      campaign.runFrom master false count 0 .empty session := by
  rw [runFrom, ← List.range_eq_range']
  rfl

/-- **The order of a run does not count.** In a steady campaign that nothing cancels,
every order and grouping of the iterations of a run gives the same summary and the same
findings. -/
theorem orderIndependent (steady : campaign.IsSteady) (running : session.bench.cancelled = false) :
    campaign.OrderIndependent session := by
  choose yielded yields using steady.exists_yields
  have outcomes (master : UInt64) (index : Nat) :
      campaign.Yields (seedOf master index) (yielded (seedOf master index)) := yields _
  refine ⟨?_, ?_, ?_⟩
  · intro master count order grouping rearranged regrouped
    obtain ⟨_, -, ran⟩ := iterateAll_run (outcomes master) order running
    obtain ⟨_, whole⟩ := runFrom_of_yields (outcomes master) count 0 running
    rw [ran] at regrouped
    rw [run_eq_runFrom, whole, grouping.summary_eq_sum, ← List.range_eq_range']
    exact Summary.ofIterations_perm (regrouped.trans (rearranged.map _))
  · intro master count order rearranged
    obtain ⟨_, -, ran⟩ := iterateAll_run (outcomes master) order running
    obtain ⟨_, whole⟩ := runFrom_of_yields (outcomes master) count 0 running
    rw [run_eq_runFrom, ran, whole, ← List.range_eq_range']
    exact ⟨_, _, rfl, rfl, (rearranged.map _).flatMap_right _⟩
  · intro master count more session' running'
    obtain ⟨_, longer⟩ := runFrom_of_yields (outcomes master) (count + more) 0 running
    obtain ⟨_, whole⟩ := runFrom_of_yields (outcomes master) count 0 running
    obtain ⟨_, others⟩ := runFrom_of_yields (outcomes master) more count running'
    have split := @List.range'_append_1 0 count more
    rw [Nat.zero_add] at split
    rw [run_eq_runFrom, run_eq_runFrom, longer, whole, others, ← split, List.map_append,
      Summary.ofIterations_append]

/-- A campaign with a hint that makes a finding and one that is skipped, whose compiler
and first engine count their runs. -/
def tallying : Campaign Nat where
  catalog := .ofHints [["ids.res.d0 = ids.a.low"], ["memory[ap] = 1"]]
  compiler := ⟨fun source _ bench =>
    (.ok ⟨source.toUTF8.toList⟩, { bench with world := bench.world + 1 })⟩
  judge :=
    { a := ⟨"left", fun _ _ bench =>
        (.finished .empty, { bench with world := bench.world + 1 })⟩
      b := ⟨"right", fun artifact _ => pure (.failed .rangeCheck artifact.shortId)⟩
      timeout := ⟨1⟩
      confirm := true }
  compileTimeout := ⟨1⟩

/-- A run of five iterations with two findings, whose iterations can be taken in any
order. -/
theorem tallying_orderIndependent :
    tallying.IsSteady ∧ (⟨⟨0, false⟩, []⟩ : Session Nat).bench.cancelled = false ∧
      tallying.OrderIndependent ⟨⟨0, false⟩, []⟩ ∧
      ((tallying.run 6 ⟨5, none⟩).run ⟨⟨0, false⟩, []⟩).1 =
        ⟨5, 0, 2, 0, .zero, ⟨0, 0, 3, 0, 0, 0, 0, 0⟩⟩ := by
  have steady : tallying.IsSteady := by
    refine ⟨⟨_, fun _ _ => rfl⟩, ?_, fun _ _ running => running, ?_⟩
    · rintro (_ | _)
      · exact ⟨fun _ => _, fun _ _ => rfl⟩
      · exact ⟨_, fun _ _ => rfl⟩
    · rintro (_ | _) _ _ running
      · exact running
      · exact running
  exact ⟨steady, rfl, orderIndependent steady rfl, by decide +kernel⟩

end Campaign

end HintFuzz
