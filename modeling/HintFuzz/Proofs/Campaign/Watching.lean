import HintFuzz.Proofs.Campaign.Cancellation
import HintFuzz.Proofs.Campaign.Deadline

/-!
# Campaigns on record

A recorded campaign does what the campaign does and lists the calls of its compiler and of its
engines beside its world (`Campaign.recorded`).  Whatever is made of the same steps tracks the
campaign without the list (`Tracks`), so that watching it tells which calls it took and changes
nothing (`exists_watch`).
-/

namespace HintFuzz

variable {σ α : Type}

/-- A bench without the list of calls. -/
def Bench.unrecorded (bench : Bench (σ × List Call)) : Bench σ :=
  ⟨bench.world.1, bench.cancelled⟩

/-- A session without the list of calls. -/
def Session.unrecorded (session : Session (σ × List Call)) : Session σ :=
  ⟨session.bench.unrecorded, session.log⟩

/-- A session during a run, without the list of calls. -/
def Timed.unrecorded (timed : Timed (σ × List Call)) : Timed σ :=
  ⟨timed.session.unrecorded, timed.deadline?⟩

/-- What comes of something that is done with a recorded campaign: the answer, the session after
it, and the calls of the compiler and of the engines that it took. -/
def watch (action : StateM (Session (σ × List Call)) α) (session : Session σ) :
    α × Session σ × List Call :=
  let (answer, after) := action.run (session.recording [])
  (answer, after.unrecorded, after.bench.world.2)

/-! ### What is recorded -/

section Recorded

variable {campaign : Campaign σ} {session after : Session σ} {answer : α} {calls : List Call}
  {recordedAction : StateM (Session (σ × List Call)) α} {action : StateM (Session σ) α}

/-- What is watched is the action on a session with an empty record. -/
theorem watch_eq (ran : recordedAction.run (session.recording []) = (answer, after.recording calls)) :
    watch recordedAction session = (answer, after, calls) := by
  unfold watch
  rw [ran]
  rfl

/-- What is seen of an action is what it does. -/
theorem run_of_watch (watched : watch recordedAction session = (answer, after, calls)) :
    recordedAction.run (session.recording []) = (answer, after.recording calls) := by
  unfold watch at watched
  cases watched
  rfl

/-- An action that keeps track of another one is seen to do the same. -/
theorem exists_watch (tracks : Tracks (Session.unrecorded · = ·) recordedAction action)
    (session : Session σ) : ∃ calls, watch recordedAction session =
      ((action.run session).1, (action.run session).2, calls) := by
  obtain ⟨same, kept⟩ := tracks (session.recording []) session rfl
  refine ⟨(recordedAction.run (session.recording [])).2.bench.world.2, ?_⟩
  rw [← same, ← kept]
  rfl

private theorem tracks_recorded (action : StateM (Bench σ) α) (call : α → Call) :
    Tracks (Bench.unrecorded · = ·) (recorded action call) action := by
  rintro bench _ rfl
  exact ⟨rfl, rfl⟩

/-- Actions on benches that keep track of each other do so in sessions. -/
theorem Tracks.onBench {recordedAction : StateM (Bench (σ × List Call)) α}
    {action : StateM (Bench σ) α} (tracks : Tracks (Bench.unrecorded · = ·) recordedAction action) :
    Tracks (Session.unrecorded · = ·) (Session.onBench recordedAction) (Session.onBench action) := by
  rintro session _ rfl
  obtain ⟨same, kept⟩ := tracks session.bench _ rfl
  exact ⟨same, congrArg (Session.mk · session.log) kept⟩

/-- Actions on sessions that keep track of each other do so beside a deadline. -/
theorem Tracks.onSession (tracks : Tracks (Session.unrecorded · = ·) recordedAction action) :
    Tracks (Timed.unrecorded · = ·) (Timed.onSession recordedAction) (Timed.onSession action) := by
  rintro timed _ rfl
  obtain ⟨same, kept⟩ := tracks timed.session _ rfl
  exact ⟨same, congrArg (Timed.mk · timed.deadline?) kept⟩

/-- Asking whether to go on is the same with a record. -/
theorem Timed.tracks_stopped :
    Tracks (Timed.unrecorded · = ·) (stopped : StateM (Timed (σ × List Call)) Bool) stopped := by
  rintro timed _ rfl
  change (stopped timed).1 = (stopped timed.unrecorded).1 ∧
    (stopped timed).2.unrecorded = (stopped timed.unrecorded).2
  have same : timed.unrecorded.session.bench.cancelled = timed.session.bench.cancelled := rfl
  unfold stopped
  rw [same]
  split
  · exact ⟨rfl, rfl⟩
  · exact ⟨rfl, rfl⟩

namespace Campaign

private theorem tracks_conclude_recorded (campaign : Campaign σ) (seed : UInt64) (plan : Plan)
    (text : String) (verdict : Verdict) :
    Tracks (Session.unrecorded · = ·) (campaign.recorded.conclude seed plan text verdict)
      (campaign.conclude seed plan text verdict) := by
  cases verdict with
  | pass => exact .pure _
  | inconclusive reason => exact .pure _
  | finding detail =>
      rintro session _ rfl
      exact ⟨rfl, rfl⟩

/-- A recorded campaign is like the campaign but for the list of calls. -/
theorem alike_recorded (campaign : Campaign σ) :
    Alike (Timed.unrecorded · = ·) campaign.recorded campaign where
  catalog := rfl
  stopped := Timed.tracks_stopped
  compile _ := (tracks_recorded _ _).onBench.onSession
  judge artifact := by
    refine Tracks.onSession (Tracks.onBench (Judge.tracks_judge rfl fun slot => ?_))
    cases slot with
    | a => exact tracks_recorded _ _
    | b => exact tracks_recorded _ _
  conclude seed plan text verdict :=
    (tracks_conclude_recorded campaign seed plan text verdict).onSession

private theorem tracks_within_recorded {α : Type}
    {recordedAction : StateM (Timed (σ × List Call)) α}
    {action : StateM (Timed σ) α} (tracks : Tracks (Timed.unrecorded · = ·) recordedAction action)
    (deadline? : Option Deadline) : Tracks (Session.unrecorded · = ·)
      (Timed.within deadline? recordedAction) (Timed.within deadline? action) := by
  rintro session _ rfl
  obtain ⟨same, kept⟩ := tracks ⟨session, deadline?⟩ _ rfl
  exact ⟨same, congrArg Timed.session kept⟩

/-- So the iterations of a run come to the same, recorded or not. -/
theorem tracks_outcomesUntil_recorded (campaign : Campaign σ) (clock : Clock)
    (limit? : Option Duration) (seeds : List UInt64) :
    Tracks (Session.unrecorded · = ·) (campaign.recorded.outcomesUntil clock limit? seeds)
      (campaign.outcomesUntil clock limit? seeds) :=
  tracks_within_recorded ((alike_recorded campaign).iterateSeeds seeds) _

/-- So does an iteration that is told whether it is out of time. -/
theorem tracks_iterate_recorded (campaign : Campaign σ) (seed : UInt64) (hint? : Option HintId)
    (expired : Bool) :
    Tracks (Session.unrecorded · = ·) (campaign.recorded.iterate seed hint? expired)
      (campaign.iterate seed hint? expired) :=
  tracks_within_recorded ((alike_recorded campaign).iterateUntil seed hint?) _

end Campaign

end Recorded

end HintFuzz
