import HintFuzz.Proofs.Campaign.Iteration
import HintFuzz.Proofs.Verdict.Judging

/-!
# Cancelled iterations

The flag can be set at any time: by others while an iteration is planned
(`Campaign.iterateAmid`), or while its program is compiled.  It is read before an
iteration, before the compilation and when an artifact comes back, and at each of these
points a set flag ends the iteration before anything further is run or committed.  It is
not read when the compiler comes back without an artifact: then the refusal counts, and
the finding that it makes of a program with exact types is committed all the same
(`Campaign.cancellationRule`).
-/

namespace HintFuzz

variable {σ α : Type}

/-! ### Iterations on record -/

/-- Does something to the world alone, without a call in the list. -/
def unrecorded (action : StateM (Bench σ) α) : StateM (Bench (σ × List Call)) α := fun bench =>
  let (answer, after) := action.run ⟨bench.world.1, bench.cancelled⟩
  (answer, after.recording bench.world.2)

private theorem unrecorded_run {action : StateM (Bench σ) α} {bench after : Bench σ} {answer : α}
    (ran : action.run bench = (answer, after)) (calls : List Call) :
    (unrecorded action).run (bench.recording calls) = (answer, after.recording calls) := by
  change ((action.run bench).1, (action.run bench).2.recording calls) = _
  rw [ran]

/-- A compiler whose runs are recorded. -/
def Compiler.recorded (compiler : Compiler σ) : Compiler (σ × List Call) where
  compile source limit := HintFuzz.recorded (compiler.compile source limit) (.compile source)

/-- A session with a list of calls beside its world. -/
def Session.recording (session : Session σ) (calls : List Call) : Session (σ × List Call) :=
  ⟨session.bench.recording calls, session.log⟩

namespace Campaign

/-- A campaign whose compiler and engines are recorded. -/
def recorded (campaign : Campaign σ) : Campaign (σ × List Call) where
  catalog := campaign.catalog
  compiler := campaign.compiler.recorded
  judge := campaign.judge.recorded
  compileTimeout := campaign.compileTimeout

variable {campaign : Campaign σ} {meanwhile : StateM (Bench σ) Unit} {seed : UInt64}
  {hint? : Option HintId} {expired : Bool} {session after : Session σ} {iteration : Iteration}
  {between : Bench σ}

/-! ### The calls of an iteration -/

/-- A recorded compiler answers as it does, with one more call in the record. -/
theorem compile_recorded {text : String} {bench : Bench σ}
    {answer : Except CompileFault Artifact}
    (compiled : (campaign.compiler.compile text campaign.compileTimeout).run bench =
      (answer, between)) (calls : List Call) :
    (campaign.recorded.compiler.compile text campaign.recorded.compileTimeout).run
        (bench.recording calls) = (answer, between.recording (calls ++ [.compile text answer])) :=
  recorded_run compiled (.compile text) calls

/-- A program of a recorded campaign is written as one of the campaign itself. -/
theorem Writes.recorded {late : Nat → Bool} {plan : Plan} {text : String} {met : Bench σ}
    (writes : campaign.Writes meanwhile seed hint? late session plan text met) (calls : List Call) :
    campaign.recorded.Writes (unrecorded meanwhile) seed hint? late (session.recording calls) plan
      text (met.recording calls) where
  go := writes.go
  meets := unrecorded_run writes.meets calls
  planned := writes.planned
  written := writes.written

/-- Recording its calls changes nothing about an iteration. -/
theorem Iterates.recorded {late : Nat → Bool}
    (iterates : campaign.Iterates meanwhile seed hint? late session iteration after)
    (calls : List Call) :
    ∃ more, campaign.recorded.Iterates (unrecorded meanwhile) seed hint? late
      (session.recording calls) iteration (after.recording (calls ++ more)) := by
  cases iterates with
  | stopped stop => exact ⟨[], (List.append_nil calls).symm ▸ .stopped stop⟩
  | unplanned go meets unplanned =>
      exact ⟨[], (List.append_nil calls).symm ▸
        .unplanned go (unrecorded_run meets calls) unplanned⟩
  | unwritten go meets planned unwritten =>
      exact ⟨[], (List.append_nil calls).symm ▸
        .unwritten go (unrecorded_run meets calls) planned unwritten⟩
  | halted writes stop =>
      exact ⟨[], (List.append_nil calls).symm ▸ .halted (writes.recorded calls) stop⟩
  | rejected writes goOn compiled concluded =>
      exact ⟨_, .rejected (writes.recorded calls) goOn (compile_recorded compiled calls) concluded⟩
  | interrupted writes goOn compiled stop =>
      exact ⟨_, .interrupted (writes.recorded calls) goOn (compile_recorded compiled calls) stop⟩
  | @judged plan text artifact _ _ _ _ _ writes goOn compiled goFurther judged concluded =>
      obtain ⟨judgement, last, runs, judges⟩ := Judge.exists_judges campaign.judge _ _
      cases judged.symm.trans judges.run
      refine ⟨[.compile text (.ok artifact)] ++ runs, ?_⟩
      rw [← List.append_assoc]
      exact .judged (writes.recorded calls) goOn (compile_recorded compiled calls) goFurther
        (judges.run_recorded _) concluded

/-- What the iteration of a seed comes to among others, what it leaves of the session, and
the calls of the compiler and of the engines that it took. -/
def observe (campaign : Campaign σ) (meanwhile : StateM (Bench σ) Unit) (seed : UInt64)
    (hint? : Option HintId) (expired : Bool) (session : Session σ) :
    Iteration × Session σ × List Call :=
  let (iteration, after) := (campaign.recorded.iterateAmid (unrecorded meanwhile) seed hint?
    expired).run (session.recording [])
  (iteration, ⟨⟨after.bench.world.1, after.bench.cancelled⟩, after.log⟩, after.bench.world.2)

/-- What is observed of an iteration is how the recorded one goes. -/
theorem Iterates.observe_eq {calls : List Call}
    (iterates : campaign.recorded.Iterates (unrecorded meanwhile) seed hint? (fun _ => expired)
      (session.recording []) iteration (after.recording calls)) :
    campaign.observe meanwhile seed hint? expired session = (iteration, after, calls) := by
  unfold observe
  rw [iterates.run_amid]
  rfl

/-- What is observed of an iteration whose program the compiler does not accept: one call, and what
the refusal concludes. -/
theorem Writes.observe_of_refused {plan : Plan} {text : String} {fault : CompileFault}
    {met last : Bench σ}
    (writes : campaign.Writes meanwhile seed hint? (fun _ => expired) session plan text met)
    (goOn : (met.cancelled || expired) = false)
    (compiled : (campaign.compiler.compile text campaign.compileTimeout).run met =
      (.error fault, last)) :
    campaign.observe meanwhile seed hint? expired session =
      (campaign.concluded seed plan text (Verdict.ofCompileFault fault plan.wrapper.confidence),
        session.concluding last (campaign.concluded seed plan text
          (Verdict.ofCompileFault fault plan.wrapper.confidence)),
        [.compile text (.error fault)]) := by
  have iterates : campaign.recorded.Iterates (unrecorded meanwhile) seed hint? (fun _ => expired)
      (session.recording [])
      (campaign.concluded seed plan text (Verdict.ofCompileFault fault plan.wrapper.confidence))
      (Session.recording (session.concluding last _) _) :=
    .rejected (writes.recorded []) goOn (compile_recorded compiled []) rfl
  exact iterates.observe_eq

/-- An iteration comes to the same whether it is observed or not. -/
theorem exists_observe_eq (campaign : Campaign σ) (meanwhile : StateM (Bench σ) Unit)
    (seed : UInt64) (hint? : Option HintId) (expired : Bool) (session : Session σ) :
    ∃ calls, campaign.observe meanwhile seed hint? expired session =
      (((campaign.iterateAmid meanwhile seed hint? expired).run session).1,
        ((campaign.iterateAmid meanwhile seed hint? expired).run session).2, calls) := by
  obtain ⟨iteration, after, iterates⟩ :=
    exists_iterates campaign meanwhile seed hint? (fun _ => expired) session
  obtain ⟨calls, recorded⟩ := iterates.recorded []
  refine ⟨calls, ?_⟩
  rw [iterates.run_amid]
  exact recorded.observe_eq

/-! ### The rule -/

/-- What a set flag does to an iteration, whatever the compiler, the engines and others do. -/
structure CancellationRule (campaign : Campaign σ) : Prop where
  /-- Observing an iteration changes nothing. -/
  observed : ∀ meanwhile seed hint? expired session, ∃ calls,
    campaign.observe meanwhile seed hint? expired session =
      (((campaign.iterateAmid meanwhile seed hint? expired).run session).1,
        ((campaign.iterateAmid meanwhile seed hint? expired).run session).2, calls)
  /-- A flag that is set before an iteration ends it: nothing is run. -/
  before : ∀ meanwhile seed hint? expired session, session.bench.cancelled = true →
    campaign.observe meanwhile seed hint? expired session = (.cancelled, session, [])
  /-- A flag that is set while the iteration is planned ends it before the program is
  compiled. -/
  planning : ∀ meanwhile seed hint? expired session between plan text,
    (session.bench.cancelled || expired) = false →
      meanwhile.run session.bench = ((), between) → between.cancelled = true →
        campaign.catalog.plan seed hint? = .ok plan →
          plan.wrapper.instantiate plan.values = .ok text →
            campaign.observe meanwhile seed hint? expired session =
              (.cancelled, ⟨between, session.log⟩, [])
  /-- A flag that is set when an artifact comes back ends the iteration before an engine is
  run, and nothing is committed. -/
  compiling : ∀ meanwhile seed hint? expired session between after plan text artifact,
    (session.bench.cancelled || expired) = false →
      meanwhile.run session.bench = ((), between) → (between.cancelled || expired) = false →
        campaign.catalog.plan seed hint? = .ok plan →
          plan.wrapper.instantiate plan.values = .ok text →
            (campaign.compiler.compile text campaign.compileTimeout).run between =
                (.ok artifact, after) → after.cancelled = true →
              campaign.observe meanwhile seed hint? expired session =
                (.cancelled, ⟨after, session.log⟩, [.compile text (.ok artifact)])
  /-- When the compiler comes back without an artifact, the flag is not read: no engine is
  run, but the iteration is not cancelled, and it commits a finding if the compiler
  rejected a program with exact types. -/
  refused : ∀ meanwhile seed hint? expired session between after plan text fault,
    (session.bench.cancelled || expired) = false →
      meanwhile.run session.bench = ((), between) → (between.cancelled || expired) = false →
        campaign.catalog.plan seed hint? = .ok plan →
          plan.wrapper.instantiate plan.values = .ok text →
            (campaign.compiler.compile text campaign.compileTimeout).run between =
                (.error fault, after) →
              ∃ iteration, iteration ≠ .cancelled ∧
                (iteration.committed ≠ [] ↔
                  (∃ message, fault = .rejected message) ∧ plan.wrapper.confidence = .exact) ∧
                campaign.observe meanwhile seed hint? expired session =
                  (iteration, ⟨after, session.log ++ iteration.committed⟩,
                    [.compile text (.error fault)])

private theorem concluded_ne_cancelled (campaign : Campaign σ) (seed : UInt64) (plan : Plan)
    (text : String) (verdict : Verdict) : campaign.concluded seed plan text verdict ≠ .cancelled := by
  cases verdict with
  | pass => exact nofun
  | inconclusive reason => exact nofun
  | finding detail => exact nofun

/-- Of the refusals of a compiler only that of a program with exact types is a finding. -/
theorem committed_ofCompileFault (campaign : Campaign σ) (seed : UInt64) (plan : Plan)
    (text : String) (fault : CompileFault) (confidence : Confidence) :
    (campaign.concluded seed plan text (Verdict.ofCompileFault fault confidence)).committed ≠ [] ↔
      (∃ message, fault = .rejected message) ∧ confidence = .exact := by
  cases fault with
  | rejected message =>
      cases confidence with
      | exact => exact ⟨fun _ => ⟨⟨message, rfl⟩, rfl⟩, fun _ => List.cons_ne_nil _ _⟩
      | approximate => exact ⟨fun some => absurd rfl some, nofun⟩
  | timeout limit => exact ⟨fun some => absurd rfl some, nofun⟩
  | unreachable cause => exact ⟨fun some => absurd rfl some, nofun⟩

/-- **A set flag commits nothing further, unless the compiler has refused the program.** -/
theorem cancellationRule (campaign : Campaign σ) : CancellationRule campaign where
  observed := exists_observe_eq campaign
  before meanwhile seed hint? expired session set := by
    have stop : (session.bench.cancelled || expired) = true := by rw [set, Bool.true_or]
    have stopped : campaign.recorded.Iterates (unrecorded meanwhile) seed hint? (fun _ => expired)
        (session.recording []) .cancelled (session.recording []) := .stopped stop
    exact stopped.observe_eq
  planning meanwhile seed hint? expired session between plan text go met set planned written := by
    have stop : (between.cancelled || expired) = true := by rw [set, Bool.true_or]
    have writes : campaign.Writes meanwhile seed hint? (fun _ => expired) session plan text between :=
      ⟨go, met, planned, written⟩
    have halted : campaign.recorded.Iterates (unrecorded meanwhile) seed hint? (fun _ => expired)
        (session.recording []) .cancelled (Session.recording ⟨between, session.log⟩ []) :=
      .halted (writes.recorded []) stop
    exact halted.observe_eq
  compiling meanwhile seed hint? expired session between after plan text artifact go met goOn
      planned written compiled set := by
    have stop : (after.cancelled || expired) = true := by rw [set, Bool.true_or]
    have writes : campaign.Writes meanwhile seed hint? (fun _ => expired) session plan text between :=
      ⟨go, met, planned, written⟩
    have interrupted : campaign.recorded.Iterates (unrecorded meanwhile) seed hint?
        (fun _ => expired) (session.recording []) .cancelled
        (Session.recording ⟨after, session.log⟩ _) :=
      .interrupted (writes.recorded []) goOn (compile_recorded compiled []) stop
    exact interrupted.observe_eq
  refused meanwhile seed hint? expired session between after plan text fault go met goOn planned
      written compiled := by
    have writes : campaign.Writes meanwhile seed hint? (fun _ => expired) session plan text between :=
      ⟨go, met, planned, written⟩
    exact ⟨_, concluded_ne_cancelled campaign seed plan text _,
      committed_ofCompileFault campaign seed plan text fault _,
      writes.observe_of_refused goOn compiled⟩

/-- A campaign whose compiler cancels the session and rejects the program. -/
def refusing : Campaign Unit where
  catalog := .ofHints [["ids.res.d0 = ids.a.low"]]
  compiler := ⟨fun _ _ bench => (.error (.rejected "unexpected token"), { bench with cancelled := true })⟩
  judge :=
    { a := ⟨"left", fun _ _ => pure (.finished .empty)⟩
      b := ⟨"right", fun _ _ => pure (.finished .empty)⟩
      timeout := ⟨1⟩
      confirm := true }
  compileTimeout := ⟨1⟩

/-- The flag is set when the compiler comes back, and yet the iteration is not cancelled
and its finding is committed. -/
theorem refusing_commits :
    (∀ text bench, ((refusing.compiler.compile text refusing.compileTimeout).run
      bench).2.cancelled = true) ∧
    ((refusing.iterateAmid (pure ()) 0 none false).run ⟨⟨(), false⟩, []⟩).1 ≠ .cancelled ∧
    ((refusing.iterateAmid (pure ()) 0 none false).run ⟨⟨(), false⟩, []⟩).2.log.map
      Finding.detail = [.compileRejected "unexpected token"] := by
  refine ⟨fun _ _ => rfl, ?_, ?_⟩
  · decide +kernel
  · decide +kernel

end Campaign

end HintFuzz
