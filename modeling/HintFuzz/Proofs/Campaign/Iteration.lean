import HintFuzz.Campaign.Run
import HintFuzz.Proofs.Monad.Steps
import Mathlib.Logic.Function.Iterate

/-!
# How an iteration goes

An iteration goes one of seven ways (`Campaign.Iterates`): it is stopped, has no plan, has no
text, is stopped before its program is compiled, is rejected by the compiler, is interrupted before
its artifact is judged, or is judged.  Each way says what was run before, what the iteration comes
to and what is left of the session, so that what holds of an iteration is shown way by way
(`Campaign.exists_iterates`).  Of the deadline a way knows only what it tells at the three places
where it is asked for (`Deadline.late`), so that all deadlines are covered at once.
-/

namespace HintFuzz

variable {σ : Type}

/-- The findings that an iteration commits to the log. -/
def Iteration.committed : Iteration → List Finding
  | .finding record => [record]
  | _ => []

/-- A session once an iteration is over. -/
def Session.concluding (session : Session σ) (bench : Bench σ) (iteration : Iteration) : Session σ :=
  ⟨bench, session.log ++ iteration.committed⟩

/-! ### What deadlines tell -/

namespace Deadline

variable {deadline : Deadline} {deadline? : Option Deadline}

/-- The deadline once the clock has been read some times more. -/
def again (deadline? : Option Deadline) (count : Nat) : Option Deadline :=
  deadline?.map read^[count]

/-- What a deadline tells when it is asked again after some readings.  No deadline tells that
there is time. -/
def late (deadline? : Option Deadline) (count : Nat) : Bool :=
  (again deadline? (count + 1)).any reached

/-- A deadline that was never asked is as it was. -/
theorem again_zero (deadline? : Option Deadline) : again deadline? 0 = deadline? :=
  Option.map_id'

/-- The next reading is one reading more. -/
theorem map_read_again (deadline? : Option Deadline) (count : Nat) :
    (again deadline? count).map read = again deadline? (count + 1) := by
  rw [again, again, Option.map_map, Function.iterate_succ']

/-- A time that has been found over stays over. -/
theorem read_of_reached (late : deadline.reached = true) : deadline.read = deadline :=
  if_pos late

/-- Who has been told is told nothing else. -/
theorem again_told (expired : Bool) (count : Nat) : again (told expired) count = told expired := by
  cases expired with
  | true => exact congrArg some (Function.iterate_fixed (read_of_reached rfl) count)
  | false => rfl

/-- Who has been told is told so at every reading. -/
theorem late_told (expired : Bool) : late (told expired) = fun _ => expired := by
  funext count
  rw [late, again_told]
  cases expired with
  | true => rfl
  | false => rfl

end Deadline

open Deadline (again late told)

namespace Timed

variable {session : Session σ} {deadline? : Option Deadline} {count : Nat}

/-- Going on takes one reading. -/
theorem stopped_run_of_go (go : (session.bench.cancelled || late deadline? count) = false) :
    stopped.run ⟨session, again deadline? count⟩ =
      (false, ⟨session, again deadline? (count + 1)⟩) := by
  obtain ⟨clear, inTime⟩ := Bool.or_eq_false_iff.mp go
  change stopped _ = _
  unfold stopped
  simp only [clear, Bool.false_eq_true, ↓reduceIte, Deadline.map_read_again]
  exact Prod.ext inTime rfl

/-- Stopping takes one reading, or none if the flag is set. -/
theorem exists_stopped_run_of_stop (stop : (session.bench.cancelled || late deadline? count) = true) :
    ∃ more, stopped.run ⟨session, again deadline? count⟩ =
      (true, ⟨session, again deadline? more⟩) := by
  cases set : session.bench.cancelled with
  | true => exact ⟨count, if_pos set⟩
  | false =>
      rw [set, Bool.false_or] at stop
      refine ⟨count + 1, ?_⟩
      change stopped _ = _
      unfold stopped
      simp only [set, Bool.false_eq_true, ↓reduceIte, Deadline.map_read_again]
      exact Prod.ext stop rfl

/-- Asking whether to go on leaves the session alone. -/
theorem exists_stopped_run (timed : Timed σ) :
    ∃ stop deadline?, stopped.run timed = (stop, ⟨timed.session, deadline?⟩) := by
  cases set : timed.session.bench.cancelled with
  | true => exact ⟨true, timed.deadline?, if_pos set⟩
  | false => exact ⟨_, _, if_neg (Bool.eq_false_iff.mp set)⟩

/-- What takes no notice of the deadline leaves it alone. -/
theorem onSession_run {α : Type} {action : StateM (Session σ) α} {answer : α}
    {after : Session σ} (ran : action.run session = (answer, after)) (deadline? : Option Deadline) :
    (onSession action).run ⟨session, deadline?⟩ = (answer, ⟨after, deadline?⟩) := by
  change ((action.run session).1, Timed.mk (action.run session).2 deadline?) = _
  rw [ran]

/-- What is done within a deadline is done to a session that has it. -/
theorem within_run {α : Type} {action : StateM (Timed σ) α} {answer : α} {after : Timed σ}
    (ran : action.run ⟨session, deadline?⟩ = (answer, after)) :
    (within deadline? action).run session = (answer, after.session) := by
  change ((action.run ⟨session, deadline?⟩).1, (action.run ⟨session, deadline?⟩).2.session) = _
  rw [ran]

end Timed

/-- What is run on the bench leaves the log alone. -/
theorem Session.onBench_run {α : Type} {action : StateM (Bench σ) α} {session : Session σ}
    {answer : α} {bench : Bench σ} (ran : action.run session.bench = (answer, bench)) :
    (onBench action).run session = (answer, { session with bench }) := by
  change ((action.run session.bench).1, { session with bench := (action.run session.bench).2 }) = _
  rw [ran]

/-- What is run on the bench during a run leaves the log and the deadline alone. -/
theorem Timed.onBench_run {α : Type} {action : StateM (Bench σ) α} {session : Session σ}
    {answer : α} {bench : Bench σ} (ran : action.run session.bench = (answer, bench))
    (deadline? : Option Deadline) :
    (onSession (Session.onBench action)).run ⟨session, deadline?⟩ =
      (answer, ⟨{ session with bench }, deadline?⟩) :=
  onSession_run (Session.onBench_run ran) deadline?

namespace Campaign

/-- The iteration of a seed among others that is told at its start whether it is out of time. -/
def iterateAmid (campaign : Campaign σ) (meanwhile : StateM (Bench σ) Unit) (seed : UInt64)
    (hint? : Option HintId) (expired : Bool) : StateM (Session σ) Iteration :=
  Timed.within (told expired) (campaign.iterateAround meanwhile seed hint?)

/-- What a verdict makes of the iteration of a planned program. -/
def concluded (campaign : Campaign σ) (seed : UInt64) (plan : Plan) (text : String) :
    Verdict → Iteration
  | .pass => .pass
  | .inconclusive reason => .inconclusive reason
  | .finding detail => .finding <|
    Finding.ofIteration plan.wrapper.hint seed plan.values text
      campaign.judge.a.name campaign.judge.b.name detail

/-- A program is written: the iteration is not stopped before it is planned, and others leave
`met` around the engines. -/
structure Writes (campaign : Campaign σ) (meanwhile : StateM (Bench σ) Unit) (seed : UInt64)
    (hint? : Option HintId) (late : Nat → Bool) (session : Session σ) (plan : Plan) (text : String)
    (met : Bench σ) : Prop where
  go : (session.bench.cancelled || late 0) = false
  meets : meanwhile.run session.bench = ((), met)
  planned : campaign.catalog.plan seed hint? = .ok plan
  written : plan.wrapper.instantiate plan.values = .ok text

/-- The ways that an iteration can go.  `late` is what the deadline tells when it is asked for the
first, the second and the third time. -/
inductive Iterates (campaign : Campaign σ) (meanwhile : StateM (Bench σ) Unit) (seed : UInt64)
    (hint? : Option HintId) (late : Nat → Bool) (session : Session σ) : Iteration → Session σ → Prop
  | stopped (stop : (session.bench.cancelled || late 0) = true) :
      Iterates campaign meanwhile seed hint? late session .cancelled session
  | unplanned {reason : SkipReason} {met : Bench σ}
      (go : (session.bench.cancelled || late 0) = false)
      (meets : meanwhile.run session.bench = ((), met))
      (unplanned : campaign.catalog.plan seed hint? = .error reason) :
      Iterates campaign meanwhile seed hint? late session (.skipped reason) ⟨met, session.log⟩
  | unwritten {plan : Plan} {fault : SynthesisFault} {met : Bench σ}
      (go : (session.bench.cancelled || late 0) = false)
      (meets : meanwhile.run session.bench = ((), met))
      (planned : campaign.catalog.plan seed hint? = .ok plan)
      (unwritten : plan.wrapper.instantiate plan.values = .error fault) :
      Iterates campaign meanwhile seed hint? late session (.skipped (.synthesis fault))
        ⟨met, session.log⟩
  | halted {plan : Plan} {text : String} {met : Bench σ}
      (writes : campaign.Writes meanwhile seed hint? late session plan text met)
      (stop : (met.cancelled || late 1) = true) :
      Iterates campaign meanwhile seed hint? late session .cancelled ⟨met, session.log⟩
  | rejected {plan : Plan} {text : String} {fault : CompileFault} {met between : Bench σ}
      {iteration : Iteration}
      (writes : campaign.Writes meanwhile seed hint? late session plan text met)
      (goOn : (met.cancelled || late 1) = false)
      (compiled : (campaign.compiler.compile text campaign.compileTimeout).run met =
        (.error fault, between))
      (concluded : campaign.concluded seed plan text
        (Verdict.ofCompileFault fault plan.wrapper.confidence) = iteration) :
      Iterates campaign meanwhile seed hint? late session iteration
        (session.concluding between iteration)
  | interrupted {plan : Plan} {text : String} {artifact : Artifact} {met between : Bench σ}
      (writes : campaign.Writes meanwhile seed hint? late session plan text met)
      (goOn : (met.cancelled || late 1) = false)
      (compiled : (campaign.compiler.compile text campaign.compileTimeout).run met =
        (.ok artifact, between))
      (stop : (between.cancelled || late 2) = true) :
      Iterates campaign meanwhile seed hint? late session .cancelled ⟨between, session.log⟩
  | judged {plan : Plan} {text : String} {artifact : Artifact} {met between after : Bench σ}
      {judgement : Judgement} {iteration : Iteration}
      (writes : campaign.Writes meanwhile seed hint? late session plan text met)
      (goOn : (met.cancelled || late 1) = false)
      (compiled : (campaign.compiler.compile text campaign.compileTimeout).run met =
        (.ok artifact, between))
      (goFurther : (between.cancelled || late 2) = false)
      (judged : (campaign.judge.judge artifact).run between = (judgement, after))
      (concluded : campaign.concluded seed plan text judgement.verdict = iteration) :
      Iterates campaign meanwhile seed hint? late session iteration
        (session.concluding after iteration)

variable {campaign : Campaign σ} {meanwhile : StateM (Bench σ) Unit} {seed : UInt64}
  {hint? : Option HintId} {expired : Bool} {session after : Session σ} {deadline? : Option Deadline}
  {iteration : Iteration}

/-- A conclusion commits its finding and does nothing else. -/
theorem conclude_run (campaign : Campaign σ) (seed : UInt64) (plan : Plan) (text : String)
    (verdict : Verdict) (session : Session σ) :
    (campaign.conclude seed plan text verdict).run session =
      (campaign.concluded seed plan text verdict,
        session.concluding session.bench (campaign.concluded seed plan text verdict)) := by
  cases verdict with
  | pass => exact Prod.ext rfl (congrArg (Session.mk session.bench) (List.append_nil _).symm)
  | inconclusive reason =>
      exact Prod.ext rfl (congrArg (Session.mk session.bench) (List.append_nil _).symm)
  | finding detail => rfl

/-! ### The verdict on a program -/

section Verdict

variable {text : String} {artifact : Artifact} {between last : Bench σ} {fault : CompileFault}
  {judgement : Judgement} {count : Nat}

/-- Without an artifact it is not asked whether to go on. -/
theorem verdictUntil?_run_of_rejected (confidence : Confidence) (deadline? : Option Deadline)
    (compiled : (campaign.compiler.compile text campaign.compileTimeout).run session.bench =
      (.error fault, between)) :
    (campaign.verdictUntil? text confidence).run ⟨session, deadline?⟩ =
      (some (Verdict.ofCompileFault fault confidence),
        ⟨{ session with bench := between }, deadline?⟩) := by
  unfold verdictUntil?
  rw [run_bind_of_run (Timed.onBench_run compiled deadline?)]
  rfl

/-- It is asked when the artifact has come back. -/
theorem verdictUntil?_run_of_compiled (confidence : Confidence) {stop : Bool} {more : Nat}
    (compiled : (campaign.compiler.compile text campaign.compileTimeout).run session.bench =
      (.ok artifact, between))
    (asked : Timed.stopped.run ⟨{ session with bench := between }, again deadline? count⟩ =
      (stop, ⟨{ session with bench := between }, again deadline? more⟩)) :
    (campaign.verdictUntil? text confidence).run ⟨session, again deadline? count⟩ =
      (if stop then return none
       else
        return some (← Timed.onSession (Session.onBench (campaign.judge.judge artifact))).verdict :
        StateM (Timed σ) (Option Verdict)).run
          ⟨{ session with bench := between }, again deadline? more⟩ := by
  unfold verdictUntil?
  rw [run_bind_of_run (Timed.onBench_run compiled _)]
  exact run_bind_of_run asked

/-- An artifact that comes back too late is not judged. -/
theorem exists_verdictUntil?_run_of_interrupted (confidence : Confidence)
    (compiled : (campaign.compiler.compile text campaign.compileTimeout).run session.bench =
      (.ok artifact, between)) (stop : (between.cancelled || late deadline? count) = true) :
    ∃ more, (campaign.verdictUntil? text confidence).run ⟨session, again deadline? count⟩ =
      (none, ⟨{ session with bench := between }, again deadline? more⟩) := by
  have stopped : ((Session.mk between session.log).bench.cancelled || late deadline? count) = true :=
    stop
  obtain ⟨more, asked⟩ := Timed.exists_stopped_run_of_stop stopped
  exact ⟨more, verdictUntil?_run_of_compiled confidence compiled asked⟩

/-- An artifact that comes back in time is. -/
theorem verdictUntil?_run_of_judged (confidence : Confidence)
    (compiled : (campaign.compiler.compile text campaign.compileTimeout).run session.bench =
      (.ok artifact, between)) (goOn : (between.cancelled || late deadline? count) = false)
    (judged : (campaign.judge.judge artifact).run between = (judgement, last)) :
    (campaign.verdictUntil? text confidence).run ⟨session, again deadline? count⟩ =
      (some judgement.verdict,
        ⟨{ session with bench := last }, again deadline? (count + 1)⟩) := by
  have going : ((Session.mk between session.log).bench.cancelled || late deadline? count) = false :=
    goOn
  have judgedHere : (campaign.judge.judge artifact).run (Session.mk between session.log).bench =
      (judgement, last) := judged
  rw [verdictUntil?_run_of_compiled confidence compiled (Timed.stopped_run_of_go going)]
  exact run_bind_of_run (Timed.onBench_run judgedHere _)

end Verdict

/-! ### The iteration -/

/-- An iteration that is not stopped meets what others leave. -/
theorem iterateAround_run_of_met {met : Bench σ}
    (go : (session.bench.cancelled || late deadline? 0) = false)
    (meets : meanwhile.run session.bench = ((), met)) :
    (campaign.iterateAround meanwhile seed hint?).run ⟨session, deadline?⟩ =
      (match campaign.catalog.plan seed hint? with
        | .error reason => return .skipped reason
        | .ok plan =>
          match plan.wrapper.instantiate plan.values with
          | .error fault => return .skipped (.synthesis fault)
          | .ok text => do
            if ← Timed.stopped then return .cancelled
            else
              match ← campaign.verdictUntil? text plan.wrapper.confidence with
              | none => return .cancelled
              | some verdict => Timed.onSession (campaign.conclude seed plan text verdict) :
        StateM (Timed σ) Iteration).run ⟨⟨met, session.log⟩, again deadline? 1⟩ := by
  have asked := Timed.stopped_run_of_go go
  rw [Deadline.again_zero] at asked
  unfold iterateAround
  rw [run_bind_of_run asked]
  exact run_bind_of_run (Timed.onBench_run meets _)

/-- A program that is written is compiled unless the iteration is stopped by then, and its verdict
concludes the iteration. -/
theorem Writes.run {plan : Plan} {text : String} {met : Bench σ} {between : Session σ}
    {verdict? : Option Verdict} {count : Nat}
    (writes : campaign.Writes meanwhile seed hint? (late deadline?) session plan text met)
    (goOn : (met.cancelled || late deadline? 1) = false)
    (given : (campaign.verdictUntil? text plan.wrapper.confidence).run
      ⟨⟨met, session.log⟩, again deadline? 2⟩ = (verdict?, ⟨between, again deadline? count⟩)) :
    (campaign.iterateAround meanwhile seed hint?).run ⟨session, deadline?⟩ =
      match verdict? with
      | none => (.cancelled, ⟨between, again deadline? count⟩)
      | some verdict =>
        (campaign.concluded seed plan text verdict,
          ⟨between.concluding between.bench (campaign.concluded seed plan text verdict),
            again deadline? count⟩) := by
  have going : ((Session.mk met session.log).bench.cancelled || late deadline? 1) = false := goOn
  rw [iterateAround_run_of_met writes.go writes.meets]
  simp only [writes.planned, writes.written]
  rw [run_bind_of_run (Timed.stopped_run_of_go going)]
  change StateT.run (campaign.verdictUntil? text plan.wrapper.confidence >>= _) _ = _
  rw [run_bind_of_run given]
  cases verdict? with
  | none => rfl
  | some verdict => exact Timed.onSession_run (conclude_run ..) _

/-- An iteration goes as its way says, whatever the deadline is. -/
theorem Iterates.exists_run
    (iterates : campaign.Iterates meanwhile seed hint? (late deadline?) session iteration after) :
    ∃ count, (campaign.iterateAround meanwhile seed hint?).run ⟨session, deadline?⟩ =
      (iteration, ⟨after, again deadline? count⟩) := by
  cases iterates with
  | stopped stop =>
      obtain ⟨count, asked⟩ := Timed.exists_stopped_run_of_stop stop
      rw [Deadline.again_zero] at asked
      exact ⟨count, run_bind_of_run asked⟩
  | unplanned go meets unplanned =>
      refine ⟨1, ?_⟩
      rw [iterateAround_run_of_met go meets]
      simp only [unplanned]
      rfl
  | unwritten go meets planned unwritten =>
      refine ⟨1, ?_⟩
      rw [iterateAround_run_of_met go meets]
      simp only [planned, unwritten]
      rfl
  | @halted _ _ met writes stop =>
      have stopped : ((Session.mk met session.log).bench.cancelled || late deadline? 1) = true :=
        stop
      obtain ⟨count, asked⟩ := Timed.exists_stopped_run_of_stop stopped
      refine ⟨count, ?_⟩
      rw [iterateAround_run_of_met writes.go writes.meets]
      simp only [writes.planned, writes.written]
      exact run_bind_of_run asked
  | rejected writes goOn compiled concluded =>
      subst concluded
      exact ⟨2, writes.run goOn (verdictUntil?_run_of_rejected _ _ compiled)⟩
  | @interrupted plan text artifact met between writes goOn compiled stop =>
      have compiledHere : (campaign.compiler.compile text campaign.compileTimeout).run
          (Session.mk met session.log).bench = (.ok artifact, between) := compiled
      obtain ⟨count, given⟩ := exists_verdictUntil?_run_of_interrupted _ compiledHere stop
      exact ⟨count, writes.run goOn given⟩
  | judged writes goOn compiled goFurther judged concluded =>
      subst concluded
      exact ⟨3, writes.run goOn (verdictUntil?_run_of_judged _ compiled goFurther judged)⟩

/-- An iteration always goes one of these ways. -/
theorem exists_iterates (campaign : Campaign σ) (meanwhile : StateM (Bench σ) Unit) (seed : UInt64)
    (hint? : Option HintId) (late : Nat → Bool) (session : Session σ) :
    ∃ iteration after, campaign.Iterates meanwhile seed hint? late session iteration after := by
  cases go : session.bench.cancelled || late 0 with
  | true => exact ⟨_, _, .stopped go⟩
  | false =>
  rcases meets : meanwhile.run session.bench with ⟨⟨⟩, met⟩
  cases planned : campaign.catalog.plan seed hint? with
  | error reason => exact ⟨_, _, .unplanned go meets planned⟩
  | ok plan =>
  cases written : plan.wrapper.instantiate plan.values with
  | error fault => exact ⟨_, _, .unwritten go meets planned written⟩
  | ok text =>
  have writes : campaign.Writes meanwhile seed hint? late session plan text met :=
    ⟨go, meets, planned, written⟩
  cases goOn : met.cancelled || late 1 with
  | true => exact ⟨_, _, .halted writes goOn⟩
  | false =>
  rcases compiled : (campaign.compiler.compile text campaign.compileTimeout).run met with
    ⟨fault | artifact, between⟩
  · exact ⟨_, _, .rejected writes goOn compiled rfl⟩
  · cases goFurther : between.cancelled || late 2 with
    | true => exact ⟨_, _, .interrupted writes goOn compiled goFurther⟩
    | false => exact ⟨_, _, .judged writes goOn compiled goFurther rfl rfl⟩

/-- So it has gone one of them. -/
theorem iterates_of_run {last : Timed σ}
    (ran : (campaign.iterateAround meanwhile seed hint?).run ⟨session, deadline?⟩ =
      (iteration, last)) :
    campaign.Iterates meanwhile seed hint? (late deadline?) session iteration last.session := by
  obtain ⟨iteration', after', iterates⟩ :=
    exists_iterates campaign meanwhile seed hint? (late deadline?) session
  obtain ⟨count, run⟩ := iterates.exists_run
  cases ran.symm.trans run
  exact iterates

/-! ### Iterations that are told whether they are out of time -/

/-- Being told leaves the deadline as it is. -/
theorem Iterates.run_told
    (iterates : campaign.Iterates meanwhile seed hint? (fun _ => expired) session iteration after) :
    (campaign.iterateAround meanwhile seed hint?).run ⟨session, told expired⟩ =
      (iteration, ⟨after, told expired⟩) := by
  rw [← Deadline.late_told] at iterates
  obtain ⟨count, ran⟩ := iterates.exists_run
  rw [ran, Deadline.again_told]

/-- An iteration among others goes as its way says. -/
theorem Iterates.run_amid
    (iterates : campaign.Iterates meanwhile seed hint? (fun _ => expired) session iteration after) :
    (campaign.iterateAmid meanwhile seed hint? expired).run session = (iteration, after) :=
  Timed.within_run iterates.run_told

/-- So does one with nobody around. -/
theorem Iterates.run
    (iterates : campaign.Iterates (pure ()) seed hint? (fun _ => expired) session iteration after) :
    (campaign.iterate seed hint? expired).run session = (iteration, after) :=
  iterates.run_amid

/-- An iteration among others has gone one of the ways. -/
theorem iterates_of_run_amid
    (ran : (campaign.iterateAmid meanwhile seed hint? expired).run session = (iteration, after)) :
    campaign.Iterates meanwhile seed hint? (fun _ => expired) session iteration after := by
  obtain ⟨iteration', after', iterates⟩ :=
    exists_iterates campaign meanwhile seed hint? (fun _ => expired) session
  cases ran.symm.trans iterates.run_amid
  exact iterates

/-- So has one with nobody around. -/
theorem iterates_of_run_iterate
    (ran : (campaign.iterate seed hint? expired).run session = (iteration, after)) :
    campaign.Iterates (pure ()) seed hint? (fun _ => expired) session iteration after :=
  iterates_of_run_amid ran

end Campaign

end HintFuzz
