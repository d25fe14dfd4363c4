import HintFuzz.Shell.Reader
import HintFuzz.Kernel.Process

/-!
# The state of a shell

What a script sees and changes beside the system: variables, functions, options
and the course of its commands.
-/

namespace HintFuzz.Shell

open Files (Fault)

/-- A variable of a shell. -/
structure Variable where
  name : Octets
  /-- It may be known without having a value. -/
  value : Option Octets
  exported : Bool
  /-- It cannot be changed. -/
  fixed : Bool

/-- How a script goes on. -/
inductive Flow
  | normal
  /-- Leaves so many loops. -/
  | leave (loops : Nat)
  /-- Goes on with the next round of the loop so many loops up. -/
  | next (loops : Nat)
  /-- The function or the script that is running is over, with a status that is
  given or with the one there is. -/
  | back (given : Bool)
deriving DecidableEq

/-- Why a script breaks off. -/
inductive Departure
  /-- Something could not be done. -/
  | failed
  /-- The last command is through, or one that must not fail has failed. -/
  | over
  /-- The script says that it is over. -/
  | left
deriving DecidableEq

/-- A function of a shell. -/
structure Function where
  name : Octets
  line : Nat
  body : Script

/-- A command in processes of its own, with how those that were collected have
ended. -/
structure Job where
  number : Nat
  processes : List (Nat × Option Kernel.Ending)
  /-- The script has waited for it. -/
  awaited : Bool

/-- The status of a process that has ended so. -/
def statusOf : Kernel.Ending → Nat
  | .exited code => code
  | .killed signal => 128 + signal.number

/-- The status of a job: that of its last process. -/
def Job.status (job : Job) : Nat :=
  ((job.processes.getLast?.bind Prod.snd).map statusOf).getD 0

/-- Whether all processes of a job have ended. -/
def Job.isOver (job : Job) : Bool :=
  job.processes.all fun process => process.2.isSome

/-- The state of a shell. -/
structure State where
  /-- The name that the script goes by. -/
  name : Octets
  args : List Octets
  defined : List Variable
  /-- The variables, and perhaps the options, that come back when a command is
  through: those of the innermost command first. -/
  shadowed : List (List Variable × Option (List Char))
  /-- The descriptors that come back when a command is through, with the copies that
  were made of them: those of the innermost command first. -/
  redirected : List (List (Nat × Option Nat))
  functions : List Function
  aliases : List (Octets × Octets)
  documents : Array Document
  /-- The letters of the options that are on. -/
  options : List Char
  /-- The number of the process of the outermost shell. -/
  process : Nat
  line : Nat
  /-- The command of the shell itself that is running. -/
  command : Option Octets
  /-- What was printed and is not written. -/
  output : List Octets
  status : Nat
  /-- The status with which the script ends if it says so and gives none. -/
  leaving : Option Nat
  /-- The status of the last script whose output was taken. -/
  substituted : Nat
  flow : Flow
  /-- The loops that are running, one inside the other. -/
  loops : Nat
  /-- The functions that are running, one inside the other. -/
  depth : Nat
  /-- What is run when a signal is caught; nothing for signals that are ignored. -/
  traps : List (Signal × Octets)
  /-- Signals that were caught and whose commands have not been run. -/
  caught : List Signal
  /-- The commands in the background. -/
  jobs : List Job
  lastBackground : Option Nat
  /-- The argument, counted from one, that the reading of options has come to. -/
  optionIndex : Nat
  /-- How far the reading of options has come inside of the argument before. -/
  optionOffset : Option Nat
  /-- The path of the directory that the script is in, as it was entered. -/
  directory : Octets
  /-- The programs that were looked for, with the paths at which they were found. -/
  found : List (Octets × Octets)

/-- Something that a shell does. -/
abbrev Act := Kernel.Act Departure State

/-! ### Status and messages -/

/-- Sets the status. -/
def setStatus (status : Nat) : Act Unit :=
  modify fun state => { state with status }

/-- Writes a text to a descriptor, if that can be done. -/
def writeText (descriptor : Nat) (text : Octets) : Act (Except Fault Unit) :=
  Kernel.writeAll descriptor (Octets.toBytes text)

/-- Prints a text when the command that is running is through. -/
def print (text : Octets) : Act Unit :=
  modify fun state => { state with output := text :: state.output }

/-- Writes what was printed, and tells whether that could be done. -/
def flush : Act Bool := do
  let state ← get
  match state.output with
  | [] => return true
  | texts =>
    set { state with output := [] }
    return (← writeText 1 (String.join texts.reverse)).isOk

/-- Writes to the output for errors. -/
def printError (text : Octets) : Act Unit := do
  let _ ← writeText 2 text

/-- Writes a complaint of the script. -/
def complain (message : Octets) : Act Unit := do
  let state ← get
  let command := match state.command with
    | some command => command ++ ": "
    | none => ""
  printError (state.name ++ ": " ++ toString state.line ++ ": " ++ command ++ message ++ "\n")

/-- Complains and breaks off with a status. -/
def failWith {α : Type} (status : Nat) (message : Octets) : Act α := do
  complain message
  let _ ← flush
  setStatus status
  throw .failed

/-- Complains and breaks off. -/
def fail {α : Type} (message : Octets) : Act α :=
  failWith 2 message

/-! ### Variables -/

/-- A variable. -/
def State.lookup? (state : State) (name : Octets) : Option Variable :=
  state.defined.find? fun entry => entry.name = name

/-- The value of a variable. -/
def State.value? (state : State) (name : Octets) : Option Octets :=
  (state.lookup? name).bind Variable.value

/-- Whether an option is on. -/
def State.has (state : State) (option : Char) : Bool :=
  state.options.contains option

/-- The state with a variable in place of the one of that name. -/
def State.withVariable (state : State) (entry : Variable) : State :=
  { state with
    defined :=
      if (state.lookup? entry.name).isSome then
        state.defined.map fun other => if other.name = entry.name then entry else other
      else state.defined ++ [entry] }

/-- The state without a variable. -/
def State.withoutVariable (state : State) (name : Octets) : State :=
  { state with defined := state.defined.filter fun other => other.name ≠ name }

/-- Changes a variable, unless it is fixed. -/
def changeVariable (name : Octets) (value : Option Octets) (exported : Bool) : Act Unit := do
  let state ← get
  let before := (state.lookup? name).getD ⟨name, none, false, false⟩
  if before.fixed then fail (name ++ ": is read only")
  else
    let exported := before.exported || exported || (value.isSome && state.has 'a')
    set (state.withVariable { before with value, exported })
    if name = "PATH" then modify fun state => { state with found := [] }
    else if name = "OPTIND" then
      let index := ((value.getD "").toNat?).getD 1
      modify fun state =>
        { state with optionIndex := if index = 0 then 1 else index, optionOffset := none }

/-- Sets a variable. -/
def setVariable (name value : Octets) : Act Unit :=
  changeVariable name (some value) false

/-- Removes a variable. -/
def removeVariable (name : Octets) : Act Unit := do
  let state ← get
  match state.lookup? name with
  | none => pure ()
  | some entry =>
    if entry.fixed then fail (name ++ ": is read only")
    else set (state.withoutVariable name)

/-- Keeps a variable as it is, so that it comes back when the innermost command
with variables of its own is through. -/
def shadow (name : Octets) : Act Unit :=
  modify fun state =>
    match state.shadowed with
    | (frame, options) :: outer =>
      if frame.any fun entry => entry.name = name then state
      else
        let kept := (state.lookup? name).getD ⟨name, none, false, false⟩
        { state with shadowed := (kept :: frame, options) :: outer }
    | [] => state

/-- Opens a frame for variables that come back. -/
def openFrame : Act Unit :=
  modify fun state => { state with shadowed := ([], none) :: state.shadowed }

/-- The state without its innermost frame of variables. -/
def State.withoutFrame (state : State) : State :=
  match state.shadowed with
  | [] => state
  | (frame, options) :: outer =>
    let restored := frame.foldl (fun (state : State) kept =>
      if kept.value.isNone && !kept.exported && !kept.fixed then state.withoutVariable kept.name
      else state.withVariable kept) state
    { restored with shadowed := outer, options := options.getD state.options }

/-- Lets variables come back until no more than so many frames are left. -/
def closeFrames (count : Nat) : Act Unit :=
  modify fun state =>
    (List.range (state.shadowed.length - count)).foldl (fun state _ => state.withoutFrame) state

/-- The place of a name among others when variables are listed. -/
def bucket (name : Octets) : Nat :=
  let codes := name.toList.map Char.toNat
  (codes.foldl (· + ·) (16 * codes.headD 0)) % 39

/-- The variables that other programs are given. -/
def State.environment (state : State) : Kernel.Environment :=
  let entries := (state.defined.filter (·.exported)).filterMap fun entry =>
    entry.value.map fun value => (entry.name, value)
  entries.mergeSort fun a b => bucket a.1 ≤ bucket b.1

end HintFuzz.Shell
