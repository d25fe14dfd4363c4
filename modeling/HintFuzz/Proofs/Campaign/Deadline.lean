import HintFuzz.Proofs.Campaign.Counts
import HintFuzz.Proofs.Campaign.Iteration

/-!
# Runs with a deadline

A run goes by what its clock shows, reading by reading, whatever that is (`Campaign.runUntil`).
What its iterations are told by the deadline is all that they see of the clock, so that runs which
are told the same go the same (`Campaign.outcomesUntil_eq_of_tells`), and by clocks that stand still
all runs do (`Campaign.runUntil_still`).
-/

namespace HintFuzz

variable {σ : Type}

/-! ### Deadlines that are over, or not, for a whole run -/

namespace Deadline

variable {deadline? : Option Deadline} {expired : Bool} {clock : Clock} {limit : Duration}

/-- However often a deadline is read, it tells the same. -/
def Tells (expired : Bool) (deadline? : Option Deadline) : Prop :=
  ∀ count, late deadline? count = expired

/-- It does so after some readings, too. -/
theorem Tells.again (tells : Tells expired deadline?) (count : Nat) :
    Tells expired (again deadline? count) := by
  intro more
  rw [← tells (more + count), late, late, Deadline.again, Deadline.again, Deadline.again,
    Option.map_map, ← Function.iterate_add, Nat.add_right_comm]

/-- So it does after the next one. -/
theorem Tells.read (tells : Tells expired deadline?) :
    Tells expired (deadline?.map Deadline.read) :=
  tells.again 1

/-- A run that has all the time it takes is never out of time. -/
theorem tells_none : Tells false none :=
  fun _ => rfl

/-- A deadline that is over at its first reading is over for the whole run. -/
theorem tells_true (late : clock 0 + limit.nanoseconds ≤ clock 1) :
    Tells true (some (.after clock limit)) := by
  have first : (Deadline.after clock limit).read.reached = true := decide_eq_true late
  intro count
  change (Deadline.read^[count] (Deadline.after clock limit).read).reached = true
  rw [Function.iterate_fixed (read_of_reached first)]
  exact first

/-- A deadline that the clock does not come to is never over. -/
theorem tells_false (never : ∀ reading, clock reading < clock 0 + limit.nanoseconds) :
    Tells false (some (.after clock limit)) := by
  have going (count : Nat) : (Deadline.read^[count] (.after clock limit)).reached = false ∧
      (Deadline.read^[count] (.after clock limit)).clock = clock ∧
        (Deadline.read^[count] (.after clock limit)).time = clock 0 + limit.nanoseconds := by
    induction count with
    | zero => exact ⟨rfl, rfl, rfl⟩
    | succ count ih =>
        obtain ⟨unreached, sameClock, sameTime⟩ := ih
        rw [Function.iterate_succ_apply', Deadline.read, unreached]
        refine ⟨?_, sameClock, sameTime⟩
        simp only [Bool.false_eq_true, ↓reduceIte, sameClock, sameTime, decide_eq_false_iff_not,
          Nat.not_le]
        exact never _
  intro count
  exact (going (count + 1)).1

/-- All clocks that stand still tell the same of a time limit. -/
theorem exists_tells_still (limit? : Option Duration) :
    ∃ expired, ∀ now, Tells expired (limit?.map (.after fun _ => now)) := by
  match limit? with
  | none => exact ⟨false, fun _ => tells_none⟩
  | some ⟨0⟩ => exact ⟨true, fun now => tells_true (Nat.le_refl now)⟩
  | some ⟨less + 1⟩ =>
      exact ⟨false, fun _ => tells_false fun _ => Nat.lt_add_of_pos_right (Nat.succ_pos less)⟩

end Deadline

namespace Campaign

/-! ### Campaigns side by side -/

section Alike

variable {τ : Type} {related : Timed σ → Timed τ → Prop} {campaign : Campaign σ}
  {other : Campaign τ}

/-- Campaigns with one catalog whose parts keep track of each other. -/
structure Alike (related : Timed σ → Timed τ → Prop) (campaign : Campaign σ) (other : Campaign τ) :
    Prop where
  catalog : campaign.catalog = other.catalog
  stopped : Tracks related Timed.stopped Timed.stopped
  compile : ∀ text, Tracks related
    (Timed.onSession (Session.onBench (campaign.compiler.compile text campaign.compileTimeout)))
    (Timed.onSession (Session.onBench (other.compiler.compile text other.compileTimeout)))
  judge : ∀ artifact, Tracks related
    (Timed.onSession (Session.onBench (campaign.judge.judge artifact)))
    (Timed.onSession (Session.onBench (other.judge.judge artifact)))
  conclude : ∀ seed plan text verdict, Tracks related
    (Timed.onSession (campaign.conclude seed plan text verdict))
    (Timed.onSession (other.conclude seed plan text verdict))

/-- Their verdicts keep track of each other. -/
theorem Alike.verdictUntil? (alike : Alike related campaign other) (text : String)
    (confidence : Confidence) : Tracks related (campaign.verdictUntil? text confidence)
      (other.verdictUntil? text confidence) := by
  refine (alike.compile text).bind fun answer => ?_
  cases answer with
  | error fault => exact .pure _
  | ok artifact =>
      refine alike.stopped.bind fun stop => ?_
      cases stop with
      | true => exact .pure _
      | false => exact (alike.judge artifact).bind fun _ => .pure _

/-- Their iterations keep track of each other, if what others do meanwhile does. -/
theorem Alike.iterateAround (alike : Alike related campaign other)
    {meanwhile : StateM (Bench σ) Unit} {otherMeanwhile : StateM (Bench τ) Unit}
    (meets : Tracks related (Timed.onSession (Session.onBench meanwhile))
      (Timed.onSession (Session.onBench otherMeanwhile))) (seed : UInt64) (hint? : Option HintId) :
    Tracks related (campaign.iterateAround meanwhile seed hint?)
      (other.iterateAround otherMeanwhile seed hint?) := by
  refine alike.stopped.bind fun stop => ?_
  cases stop with
  | true => exact .pure _
  | false =>
  refine meets.bind fun _ => ?_
  simp only [alike.catalog]
  cases other.catalog.plan seed hint? with
  | error reason => exact .pure _
  | ok plan =>
  simp only
  cases plan.wrapper.instantiate plan.values with
  | error fault => exact .pure _
  | ok text =>
  refine alike.stopped.bind fun stop => ?_
  cases stop with
  | true => exact .pure _
  | false =>
      refine (alike.verdictUntil? text _).bind fun verdict? => ?_
      cases verdict? with
      | none => exact .pure _
      | some verdict => exact alike.conclude seed plan text verdict

/-- So do their iterations with nobody around. -/
theorem Alike.iterateUntil (alike : Alike related campaign other) (seed : UInt64)
    (hint? : Option HintId) :
    Tracks related (campaign.iterateUntil seed hint?) (other.iterateUntil seed hint?) := by
  have meets : Tracks related (Timed.onSession (Session.onBench (pure ())))
      (Timed.onSession (Session.onBench (pure ()))) := .pure ()
  exact alike.iterateAround meets seed hint?

/-- So do rows of iterations. -/
theorem Alike.iterateSeeds (alike : Alike related campaign other) (seeds : List UInt64) :
    Tracks related (campaign.iterateSeeds seeds) (other.iterateSeeds seeds) := by
  induction seeds with
  | nil => exact .pure _
  | cons seed rest ih =>
      refine (alike.iterateUntil seed none).bind fun iteration => ?_
      exact ih.bind fun later => .pure _

end Alike

/-! ### Runs that are told the same -/

section Told

variable {campaign : Campaign σ} {expired : Bool} {session : Session σ}

/-- A session during two runs that are told the same. -/
structure Told (expired : Bool) (timed timed' : Timed σ) : Prop where
  session : timed.session = timed'.session
  tells : Deadline.Tells expired timed.deadline?
  tells' : Deadline.Tells expired timed'.deadline?

/-- Deadlines that tell the same stop a run at the same places. -/
theorem tracks_stopped (expired : Bool) :
    Tracks (Told (σ := σ) expired) Timed.stopped Timed.stopped := by
  rintro ⟨session, deadline?⟩ ⟨_, deadline'?⟩ ⟨rfl, tells, tells'⟩
  change (Timed.stopped _).1 = (Timed.stopped _).1 ∧
    Told expired (Timed.stopped _).2 (Timed.stopped _).2
  unfold Timed.stopped
  simp only
  cases session.bench.cancelled with
  | true => exact ⟨rfl, rfl, tells, tells'⟩
  | false => exact ⟨(tells 0).trans (tells' 0).symm, rfl, tells.read, tells'.read⟩

/-- What takes no notice of the deadline does the same in both. -/
theorem tracks_onSession {α : Type} (action : StateM (Session σ) α) :
    Tracks (Told expired) (Timed.onSession action) (Timed.onSession action) := by
  rintro ⟨session, deadline?⟩ ⟨_, deadline'?⟩ ⟨rfl, tells, tells'⟩
  exact ⟨rfl, rfl, tells, tells'⟩

/-- So a campaign keeps track of itself. -/
theorem alike_told (campaign : Campaign σ) (expired : Bool) :
    Alike (Told expired) campaign campaign where
  catalog := rfl
  stopped := tracks_stopped expired
  compile _ := tracks_onSession _
  judge _ := tracks_onSession _
  conclude _ _ _ _ := tracks_onSession _

/-- **Iterations that are told the same** come to the same. -/
theorem outcomesUntil_eq_of_tells {clock clock' : Clock} {limit? limit'? : Option Duration}
    (tells : Deadline.Tells expired (limit?.map (.after clock)))
    (tells' : Deadline.Tells expired (limit'?.map (.after clock'))) (seeds : List UInt64)
    (session : Session σ) : (campaign.outcomesUntil clock limit? seeds).run session =
      (campaign.outcomesUntil clock' limit'? seeds).run session := by
  obtain ⟨same, kept⟩ := (alike_told campaign expired).iterateSeeds seeds
    ⟨session, limit?.map (.after clock)⟩ ⟨session, limit'?.map (.after clock')⟩ ⟨rfl, tells, tells'⟩
  exact Prod.ext same kept.session

/-- A run counts what its iterations come to. -/
theorem runUntil_run {clock : Clock} {master : UInt64} {budget : Budget} {after : Session σ}
    {outcomes : List Iteration}
    (taken : (campaign.outcomesUntil clock budget.deadline (seeds master budget.iterations)).run
      session = (outcomes, after)) :
    (campaign.runUntil clock master budget).run session = (Summary.ofIterations outcomes, after) := by
  unfold runUntil
  rw [run_bind_of_run taken]
  exact Prod.ext (Grouping.chunk outcomes).summary_eq_sum rfl

/-- **By a clock that stands still**, wherever it stands, a run is the run in no time. -/
theorem runUntil_still (campaign : Campaign σ) (now : Nat) (master : UInt64) (budget : Budget)
    (session : Session σ) : (campaign.runUntil (fun _ => now) master budget).run session =
      (campaign.run master budget).run session := by
  obtain ⟨expired, tells⟩ := Deadline.exists_tells_still budget.deadline
  have same : (campaign.outcomesUntil (fun _ => now) budget.deadline
      (seeds master budget.iterations)).run session = _ :=
    outcomesUntil_eq_of_tells (tells now) (tells 0) _ _
  exact (runUntil_run same).trans (runUntil_run rfl).symm

end Told

/-! ### Iterations in a row -/

section Rows

variable {campaign : Campaign σ} {session : Session σ} {timed between after : Timed σ}
  {seed : UInt64} {iteration : Iteration} {outcomes later : List Iteration}

/-- A row of iterations is the first one and the others behind it. -/
theorem iterateSeeds_cons_run {rest : List UInt64}
    (first : (campaign.iterateUntil seed none).run timed = (iteration, between))
    (others : (campaign.iterateSeeds rest).run between = (later, after)) :
    (campaign.iterateSeeds (seed :: rest)).run timed = (iteration :: later, after) := by
  unfold iterateSeeds
  rw [run_bind_of_run first, run_bind_of_run others]
  rfl

/-- The iterations of a run go on where the ones before them have ended. -/
theorem iterateSeeds_append_run {first rest : List UInt64}
    (taken : (campaign.iterateSeeds first).run timed = (outcomes, between))
    (others : (campaign.iterateSeeds rest).run between = (later, after)) :
    (campaign.iterateSeeds (first ++ rest)).run timed = (outcomes ++ later, after) := by
  induction first generalizing timed outcomes with
  | nil =>
      cases taken
      exact others
  | cons seed first ih =>
      rcases here : (campaign.iterateUntil seed none).run timed with ⟨iteration, next⟩
      rcases there : (campaign.iterateSeeds first).run next with ⟨more, last⟩
      rw [iterateSeeds_cons_run here there] at taken
      cases taken
      exact iterateSeeds_cons_run here (ih there)

/-! ### Iterations that are stopped at once -/

/-- With the flag set or the time over, no iteration of a row runs anything. -/
theorem exists_iterateSeeds_run_of_stopped {deadline? : Option Deadline}
    (stops : session.bench.cancelled = true ∨ Deadline.Tells true deadline?) (seeds : List UInt64) :
    ∃ deadline'?, (campaign.iterateSeeds seeds).run ⟨session, deadline?⟩ =
      (List.replicate seeds.length .cancelled, ⟨session, deadline'?⟩) := by
  induction seeds generalizing deadline? with
  | nil => exact ⟨deadline?, rfl⟩
  | cons seed rest ih =>
      have stop : (session.bench.cancelled || Deadline.late deadline? 0) = true :=
        Bool.or_eq_true_iff.mpr (stops.imp_right fun tells => tells 0)
      have stopped : campaign.Iterates (pure ()) seed none (Deadline.late deadline?) session
          .cancelled session := .stopped stop
      obtain ⟨count, first⟩ := stopped.exists_run
      obtain ⟨last, others⟩ := ih (stops.imp_right fun tells => tells.again count)
      exact ⟨last, iterateSeeds_cons_run first others⟩

/-- What stops a run before its first iteration: the flag is set, or the deadline is over when it
is read first. -/
def StopsAtOnce (clock : Clock) (limit? : Option Duration) (session : Session σ) : Prop :=
  session.bench.cancelled = true ∨
    ∃ limit, limit? = some limit ∧ clock 0 + limit.nanoseconds ≤ clock 1

/-- A run that is stopped before its first iteration runs nothing. -/
theorem StopsAtOnce.outcomesUntil_run {clock : Clock} {limit? : Option Duration}
    (stops : StopsAtOnce clock limit? session) (seeds : List UInt64) :
    (campaign.outcomesUntil clock limit? seeds).run session =
      (List.replicate seeds.length .cancelled, session) := by
  have stopping : session.bench.cancelled = true ∨
      Deadline.Tells true (limit?.map (.after clock)) := by
    refine stops.imp_right ?_
    rintro ⟨limit, rfl, late⟩
    exact Deadline.tells_true late
  obtain ⟨_, ran⟩ := exists_iterateSeeds_run_of_stopped stopping seeds
  exact Timed.within_run ran

end Rows

end Campaign

end HintFuzz
