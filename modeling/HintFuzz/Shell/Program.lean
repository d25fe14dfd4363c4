import HintFuzz.Shell.Interpreter

/-!
# Shells as programs

A shell is called with options, and with a script: as an operand, in a file or
from its input.
-/

namespace HintFuzz.Shell

open Kernel (ask)

/-- Where a shell finds its script. -/
inductive ScriptSource
  | input
  | text (script : Octets)
  | file (path : Octets)
deriving DecidableEq

/-- A variable that a shell has from its start. -/
def startVariable (name value : Octets) : Variable :=
  ⟨name, some value, false, false⟩

/-- The variables that a shell has from its start, without those that it is given. -/
def startVariables : List Variable :=
  [startVariable "IFS" (String.ofList usualSeparators),
   startVariable "PATH" "/usr/local/sbin:/usr/local/bin:/usr/sbin:/usr/bin:/sbin:/bin",
   startVariable "PS1" "# ", startVariable "PS2" "> ", startVariable "PS4" "+ ",
   startVariable "OPTIND" "1"]

/-- The state in which a shell starts. -/
def State.start (name : Octets) : State where
  name
  args := []
  defined := startVariables
  shadowed := []
  redirected := []
  functions := []
  aliases := []
  documents := #[]
  options := []
  process := 0
  line := 0
  command := none
  output := []
  status := 0
  leaving := none
  substituted := 0
  flow := .normal
  loops := 0
  depth := 0
  traps := []
  caught := []
  jobs := []
  lastBackground := none
  optionIndex := 1
  optionOffset := none
  directory := ""
  found := []

/-- Takes over the variables that a shell is given. -/
def importVariables (environment : Kernel.Environment) : Act Unit :=
  modify fun state =>
    environment.foldl (fun (state : State) (name, value) =>
      if name = "IFS" ∨ name = "OPTIND" ∨ !isVariableName name then state
      else state.withVariable ⟨name, some value, true, false⟩) state

/-- Finds out in which directory the shell is.  The path that it is given counts if
it leads there. -/
def findDirectory : Act Unit := do
  let given ← match (← get).value? "PWD" with
    | some path =>
      if path.startsWith "/" then
        match ← ask (.facts (Octets.toText path) true), ← ask (.facts "." true) with
        | .ok a, .ok b => pure (if a.id = b.id then some path else none)
        | _, _ => pure none
      else pure none
    | none => pure none
  let path ← match given with
    | some path => pure path
    | none => physicalDirectory
  setDirectory path false

/-- The script of a call, after the options were read. -/
def sourceOf (switched : Switched) : Act ScriptSource := do
  let setCall (name : Option Octets) (args : List Octets) : Act Unit :=
    modify fun state => { state with name := name.getD state.name, args }
  match switched.operands with
  | [] =>
    if switched.inline then fail "-c requires an argument"
    else return .input
  | first :: rest =>
    if switched.inline then
      setCall rest.head? rest.tail
      return .text first
    else if (← get).has 's' then
      setCall none (first :: rest)
      return .input
    else return .file first

/-- Runs the script that is read from a descriptor. -/
def runInput (descriptor : Nat) : Act Unit := do
  let bytes := (← Kernel.readAll descriptor).toOption.getD .empty
  if 2 < descriptor then
    let _ ← ask (.close descriptor)
  let _ ← runText Kernel.ages Manner.usual (Octets.charactersOf bytes)

/-- What a shell does that is called with arguments. -/
def runShell (args : List Octets) (environment : Kernel.Environment) : Act Unit := do
  importVariables environment
  let process ← ask .self
  let parent ← ask .parent
  modify fun state =>
    { state with process }.withVariable (startVariable "PPID" (toString parent))
  findDirectory
  let switched ← switchOptions true (args.length + 1) args
  let source ← sourceOf switched
  match source with
  | .text script =>
    let _ ← runText Kernel.ages ⟨true, false⟩ script.toList
  | .input =>
    modify fun state =>
      { state with options := if state.has 's' then state.options else 's' :: state.options }
    runInput 0
  | .file path =>
    match ← ask (.open (Octets.toText path) .reading 0) with
    | .error fault =>
      fail ("cannot open " ++ path ++ ": " ++ openingFault "No such file" fault)
    | .ok descriptor =>
      modify fun state => { state with name := path, args := switched.operands.tail }
      runInput descriptor

/-- A shell. -/
def program (args : List Octets) (environment : Kernel.Environment) : Kernel.Process :=
  finish Kernel.ages (runShell args.tail environment) (State.start (args.headD "sh"))
    (fun _ state => .ended state.status) fun status _ => .ended status

end HintFuzz.Shell
