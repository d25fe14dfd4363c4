import HintFuzz.Shell.State

/-!
# Jobs

A shell waits for the processes that it has started.  Those in the background are
jobs with numbers, by which a script may speak of them.
-/

namespace HintFuzz.Shell

open Kernel (Ending ask)

/-- Signals that were caught are kept until their commands are run. -/
def takeSignals : Act Unit := do
  let signals ← ask .caught
  modify fun state =>
    { state with
      caught := state.caught ++ signals.filter fun signal => !state.caught.contains signal }

/-- A job in which a process is known to have ended. -/
def Job.withEnding (job : Job) (id : Nat) (ending : Ending) : Job :=
  { job with
    processes := job.processes.map fun process =>
      if process.1 = id then (id, some ending) else process }

/-- A job that the script has waited for. -/
def Job.markAwaited (job : Job) : Job :=
  { job with awaited := true }

/-- Keeps how a process has ended that belongs to a job. -/
def noteEnding (id : Nat) (ending : Ending) : Act Unit :=
  modify fun state =>
    { state with jobs := state.jobs.map fun job => job.withEnding id ending }

/-- Says so if a signal has ended a process. -/
def announce (ending : Ending) : Act Unit := do
  match ending with
  | .killed signal => unless signal.words = "" do printError (signal.words ++ "\n")
  | .exited _ => pure ()

/-- Waits until some processes have ended, and gives how.  Their ends by signals are
announced. -/
def awaitAll : (fuel : Nat) → List (Nat × Option Ending) → Act (List (Nat × Option Ending))
  | 0, processes => return processes
  | fuel + 1, processes => do
    if processes.all fun process => process.2.isSome then return processes
    else
      match ← ask (.wait none true) with
      | .ended id ending =>
        if processes.any fun process => process.1 = id then
          announce ending
          awaitAll fuel (processes.map fun process =>
            if process.1 = id then (id, some ending) else process)
        else
          noteEnding id ending
          awaitAll fuel processes
      | .interrupted =>
        takeSignals
        awaitAll fuel processes
      | .running | .childless => return processes

/-- Waits for a command in processes of its own, and gives its status. -/
def await (ids : List Nat) : Act Nat := do
  let processes ← awaitAll Kernel.ages (ids.map (·, none))
  return (⟨0, processes, false⟩ : Job).status

/-- Keeps how the processes have ended that need not be waited for. -/
def collectEnded : (fuel : Nat) → Act Unit
  | 0 => pure ()
  | fuel + 1 => do
    match ← ask (.wait none false) with
    | .ended id ending =>
      noteEnding id ending
      collectEnded fuel
    | _ => pure ()

/-- Makes a job of processes in the background. -/
def addJob (ids : List Nat) : Act Unit :=
  modify fun state =>
    let jobs := state.jobs.filter fun job => !(job.isOver && job.awaited)
    let taken := jobs.map Job.number
    let number := ((List.range (taken.length + 1)).find? fun index =>
      !taken.contains (index + 1)).getD 0 + 1
    { state with
      jobs := ⟨number, ids.map (·, none), false⟩ :: jobs
      lastBackground := ids.getLast? }

/-- The job that a text with a percent sign stands for. -/
def jobOf (text : Octets) : Act Job := do
  let state ← get
  let behind := String.ofList (text.toList.drop 1)
  let found ← match behind with
    | "" | "%" | "+" =>
      match state.jobs.head? with
      | some job => pure (some job)
      | none => fail "No current job"
    | "-" =>
      match state.jobs[1]? with
      | some job => pure (some job)
      | none => fail "No previous job"
    | behind =>
      pure (behind.toNat?.bind fun number => state.jobs.find? fun job => job.number = number)
  match found with
  | some job => return job
  | none => fail ("No such job: " ++ text)

/-! ### Listing jobs -/

/-- The words for how a process of a job stands. -/
def standing : Option Ending → String
  | none => "Running"
  | some (.exited 0) => "Done"
  | some (.exited code) => "Done(" ++ toString code ++ ")"
  | some (.killed signal) => if signal.words = "" then signal.name else signal.words

/-- The columns that a job takes up to its command. -/
def jobColumns : Nat := 33

/-- The line of a job.  The newest one has a plus sign, and the one before it a
minus sign. -/
def Job.line (job : Job) (index : Nat) (withIds : Bool) : String :=
  let mark := match index with
    | 0 => "+"
    | 1 => "-"
    | _ => " "
  let id := match withIds, job.processes.head? with
    | true, some (id, _) => toString id ++ " "
    | _, _ => ""
  let front := "[" ++ toString job.number ++ "] " ++ mark ++ " " ++ id ++
    standing (job.processes.getLast?.bind Prod.snd)
  let padding := jobColumns - front.length
  front ++ String.ofList (List.replicate (if padding = 0 then 1 else padding) ' ') ++
    String.join (job.processes.drop 1 |>.map fun _ => " | ") ++ "\n"

/-- Prints a job, of which so many newer ones are left, and forgets it if it is
over.  Tells how many jobs are left then. -/
def showJob (withIds onlyIds : Bool) (newer : Nat) (job : Job) : Act Nat := do
  if onlyIds then print (toString ((job.processes.head?.map Prod.fst).getD 0) ++ "\n")
  else print (job.line newer withIds)
  if job.isOver then
    modify fun state =>
      { state with jobs := state.jobs.filter fun other => other.number ≠ job.number }
    return newer
  else return newer + 1

/-- Prints jobs, or all of them with the newest one first. -/
def listJobs (withIds onlyIds : Bool) (texts : List Octets) : Act Unit := do
  let chosen ← texts.mapM jobOf
  collectEnded Kernel.ages
  let jobs := (← get).jobs
  if texts.isEmpty then
    let _ ← jobs.foldlM (showJob withIds onlyIds) 0
  else
    for job in chosen do
      let newer := (jobs.takeWhile fun other => other.number ≠ job.number).length
      let _ ← showJob withIds onlyIds newer ((jobs[newer]?).getD job)

/-! ### Waiting -/

/-- The signal because of which waiting has ended. -/
def interruption : Act Nat := do
  takeSignals
  return 128 + (((← get).caught.head?.map Signal.number).getD 0)

/-- Waits until all jobs are over, or until a signal is caught. -/
def awaitJobs : (fuel : Nat) → Act Nat
  | 0 => return 0
  | fuel + 1 => do
    let state ← get
    if state.jobs.all Job.isOver then
      set { state with jobs := state.jobs.map Job.markAwaited }
      return 0
    else
      match ← ask (.wait none true) with
      | .ended id ending =>
        noteEnding id ending
        awaitJobs fuel
      | .interrupted => interruption
      | .running | .childless => return 0

/-- Waits until a job is over, or until a signal is caught. -/
def awaitJob (number : Nat) : (fuel : Nat) → Act (Nat × Bool)
  | 0 => return (0, false)
  | fuel + 1 => do
    match (← get).jobs.find? fun job => job.number = number with
    | none => return (127, false)
    | some job =>
      if job.isOver then
        modify fun state =>
          { state with
            jobs := state.jobs.map fun other =>
              if other.number = number then other.markAwaited else other }
        return (job.status, false)
      else
        match ← ask (.wait none true) with
        | .ended id ending =>
          if job.processes.any fun process => process.1 = id then announce ending
          noteEnding id ending
          awaitJob number fuel
        | .interrupted => return (← interruption, true)
        | .running | .childless => return (job.status, false)

end HintFuzz.Shell
