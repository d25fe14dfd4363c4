import HintFuzz.Finding.Record
import HintFuzz.Verdict.Judge

/-!
# Sessions and deadlines

The iterations of a campaign share a session: what is around the engines, the flag that cancels
all of them, and the log.  A run can have a deadline as well, which is found to be over by reading
a clock.  Whether to go on is asked of the flag first, and once a deadline has been found over its
clock is not read again.
-/

namespace HintFuzz

/-- The state of a campaign: what is around the engines, and the findings that
have been committed, oldest first. -/
structure Session (σ : Type) where
  bench : Bench σ
  log : List Finding

/-- What a clock shows at each reading. -/
abbrev Clock := Nat → Nat

/-- The time limit of one run. -/
structure Deadline where
  clock : Clock
  /-- How often the clock has been read. -/
  readings : Nat
  /-- When the time is over. -/
  time : Nat
  /-- The time has been found over. -/
  reached : Bool

/-- A session during a run, with the deadline of the run if it has one. -/
structure Timed (σ : Type) where
  session : Session σ
  deadline? : Option Deadline

namespace Deadline

/-- The deadline of a run that may take some time from the first reading on. -/
def after (clock : Clock) (limit : Duration) : Deadline :=
  ⟨clock, 1, clock 0 + limit.nanoseconds, false⟩

/-- The deadline once the clock has been read again. -/
def read (deadline : Deadline) : Deadline :=
  if deadline.reached then deadline
  else
    { deadline with
      readings := deadline.readings + 1
      reached := deadline.time ≤ deadline.clock deadline.readings }

/-- The deadline of a run that is out of time already, or of one that has all the time it takes. -/
def told (expired : Bool) : Option Deadline :=
  if expired then some ⟨fun _ => 0, 0, 0, true⟩ else none

end Deadline

namespace Session

variable {σ : Type}

/-- Runs something that changes only what is around the engines. -/
def onBench {α : Type} (action : StateM (Bench σ) α) : StateM (Session σ) α := fun session =>
  let (result, bench) := action.run session.bench
  (result, { session with bench })

/-- Appends a finding to the log. -/
def commit (finding : Finding) : StateM (Session σ) Unit :=
  modify fun session => { session with log := session.log ++ [finding] }

end Session

namespace Timed

variable {σ α : Type}

/-- Whether nothing further is to be run.  The clock is read only if the flag is not set. -/
def stopped : StateM (Timed σ) Bool := fun timed =>
  if timed.session.bench.cancelled then (true, timed)
  else
    let deadline? := timed.deadline?.map Deadline.read
    (deadline?.any Deadline.reached, { timed with deadline? })

/-- Does something that takes no notice of the deadline. -/
def onSession (action : StateM (Session σ) α) : StateM (Timed σ) α := fun timed =>
  let (answer, session) := action.run timed.session
  (answer, { timed with session })

/-- Does something within a deadline of its own. -/
def within (deadline? : Option Deadline) (action : StateM (Timed σ) α) : StateM (Session σ) α :=
  fun session =>
    let (answer, after) := action.run ⟨session, deadline?⟩
    (answer, after.session)

end Timed

end HintFuzz
