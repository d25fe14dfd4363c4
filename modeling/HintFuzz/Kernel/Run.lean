import HintFuzz.Kernel.Machine

/-!
# Running processes

Tasks take turns: each goes on until it has to wait, or until it has had its
share.  When all of them wait, time passes.  A run is over when the first task
ends or when the time is up.
-/

namespace HintFuzz.Kernel

open Files (Fault)

/-! ### Programs -/

/-- How often a script may be run by another script. -/
def mostInterpreters : Nat := 4

/-- The program that the first line of a script names, with what else it says. -/
def interpreter? (bytes : ByteArray) : Option (String × List Octets) :=
  match Octets.charactersOf (bytes.extract 0 256) with
  | '#' :: '!' :: rest =>
    let isSpace (c : Char) : Bool := c = ' ' || c = '\t'
    let line := ((rest.takeWhile (· ≠ '\n')).dropWhile isSpace).reverse.dropWhile isSpace
    let line := line.reverse
    let name := line.takeWhile fun c => !isSpace c
    let words := (line.dropWhile fun c => !isSpace c).dropWhile isSpace
    if name.isEmpty then none
    else some (Octets.toText (String.ofList name),
      if words.isEmpty then [] else [String.ofList words])
  | _ => none

/-- The process that a program starts, given the path that it is found at. -/
def load (programs : Programs) (files : Files) (directory : NodeId) : (scripts : Nat) →
    (path : String) → List Octets → Environment → Except Fault Process
  | scripts, path, args, environment =>
    match (files.locate directory path true).map fun id => (id, files.node? id) with
    | .error fault => .error fault
    | .ok (_, none) => .error .notFound
    | .ok (id, some node) =>
      if files.isDirectory id ∨ node.mode &&& 0o111 = 0 then .error .permissionDenied
      else
        match node.content with
        | .program name =>
          match programs name with
          | some program => .ok (program args environment)
          | none => .error .notExecutable
        | .file bytes =>
          match interpreter? bytes, scripts with
          | some (next, words), scripts + 1 =>
            load programs files directory scripts next
              (Octets.ofText next :: words ++ Octets.ofText path :: args.drop 1) environment
          | some _, 0 => .error .tooManyLinks
          | none, _ => .error .notExecutable
        | _ => .error .permissionDenied

/-- The directories in which programs are looked for. -/
def searchPath : Octets :=
  "/usr/local/sbin:/usr/local/bin:/usr/sbin:/usr/bin:/sbin:/bin"

/-- The variables that every program is given. -/
def environment : Environment :=
  [("HOME", "/root"), ("PATH", searchPath)]

/-- Looks for a program and starts it.  A place where it may not be run does not
hinder it from being found at a later one. -/
def launch (programs : Programs) (files : Files) (directory : NodeId) (name : String)
    (args : List Octets) : Except Fault Process :=
  if name = "" then .error .notFound
  else if !name.toList.contains '/' ∧ Files.longestName < name.utf8ByteSize then
    .error .nameTooLong
  else go .notFound (candidates searchPath name)
where
  /-- Tries one place after the other; `fault` is what is wrong so far. -/
  go (fault : Fault) : List String → Except Fault Process
    | [] => .error fault
    | path :: rest =>
      match load programs files directory mostInterpreters path args environment with
      | .ok process => .ok process
      | .error .permissionDenied => go .permissionDenied rest
      | .error .notFound => go fault rest
      | .error .notDirectory => if rest.isEmpty then .error .notDirectory else go fault rest
      | .error fault => .error fault

/-! ### Turns -/

/-- The time that one request takes, in nanoseconds. -/
def momentLength : Nat := 1000

/-- The time that it takes to start a process or a program, in nanoseconds. -/
def startLength : Nat := 100000

/-- How many requests a task has answered before it is the turn of another one. -/
def share : Nat := 2000

/-- The requests that a run may take before it counts as one that has no end. -/
def patience : Nat := 6000000

/-- The most tasks that there may be at once. -/
def mostTasks : Nat := 4000

/-- What becomes of a task after a step. -/
inductive Step
  /-- It goes on. -/
  | going (task : Task)
  /-- It waits, perhaps up to some time. -/
  | waiting (task : Task) (wake : Option Nat)
  | over (task : Task) (ending : Ending)

/-- The machine after some time. -/
def Machine.after (machine : Machine) (length : Nat) : Machine :=
  { machine with clock := machine.clock + length }

/-- What the task that becomes another program keeps of what it has. -/
def Task.becoming (task : Task) (process : Process) : Task :=
  { task with
    process
    descriptors := task.descriptors.filter fun descriptor => !descriptor.closing
    dispositions := task.dispositions.filter fun entry => entry.2 = .ignored
    caught := []
    noticed := [] }

/-- One step of a task. -/
def step (programs : Programs) (task : Task) (machine : Machine) : Step × Machine :=
  match task.process with
  | .ended status => (.over task (.exited (status % 256)), machine)
  | .call request next =>
    match request.serve task machine with
    | (.given answer, task, machine) =>
      (.going { task with process := next answer }, machine.after momentLength)
    | (.blocked wake, task, machine) => (.waiting task wake, machine)
    | (.killed signal, task, machine) => (.over task (.killed signal), machine)
  | .split child next =>
    let id := machine.nextId
    let born : Task := {
      task with id, parent := task.id, process := child, caught := [], noticed := [] }
    (.going { task with process := next id },
      { machine with others := machine.others ++ [born], nextId := id + 1 }.after startLength)
  | .become path args environment failed =>
    match load programs machine.files task.directory mostInterpreters path args environment with
    | .ok process => (.going (task.becoming process), machine.after startLength)
    | .error fault => (.going { task with process := failed fault }, machine.after momentLength)

/-- What came of a run: how the first task ended, unless the time was up before. -/
structure Outcome where
  ending : Option Ending
  files : Files

/-- Lets tasks take turns.  `first` is the task with which the run ends, `idle`
how many tasks in a row have waited, `wake` the first time at which one of them
goes on, and `count` what the task whose turn it is has had. -/
def turns (programs : Programs) (first limit : Nat) :
    (fuel : Nat) → (idle : Nat) → (wake : Option Nat) → (count : Nat) → Machine → Outcome
  | 0, _, _, _, machine => ⟨none, machine.files⟩
  | fuel + 1, idle, wake, count, machine =>
    if limit ≤ machine.clock then ⟨none, machine.files⟩
    else
      match machine.others with
      | [] => ⟨none, machine.files⟩
      | task :: others =>
        if others.length < idle then
          match wake with
          | some time => turns programs first limit fuel 0 none 0 { machine with clock := time }
          | none => ⟨none, machine.files⟩
        else if mostTasks < others.length then ⟨none, machine.files⟩
        else if task.stopped then
          turns programs first limit fuel (idle + 1) wake 0
            { machine with others := others ++ [task] }
        else
          match step programs task { machine with others } with
          | (.going task, machine) =>
            if share < count then
              turns programs first limit fuel 0 none 0
                { machine with others := machine.others ++ [task] }
            else
              turns programs first limit fuel 0 none (count + 1)
                { machine with others := task :: machine.others }
          | (.waiting task time, machine) =>
            let wake := match wake, time with
              | some a, some b => some (if a ≤ b then a else b)
              | none, time => time
              | wake, none => wake
            turns programs first limit fuel (idle + 1) wake 0
              { machine with others := machine.others ++ [task] }
          | (.over task ending, machine) =>
            if task.id = first then ⟨some ending, machine.files⟩
            else
              let machine := machine.bury task ending
              if machine.others.any fun other => other.id = first then
                turns programs first limit fuel 0 none 0 machine
              else
                -- The first task was ended by a signal that this one has sent.
                ⟨(machine.endings.find? fun entry => entry.2.1 = first).map fun entry =>
                  entry.2.2, machine.files⟩

/-- The time at which machines start, in nanoseconds since 1970: soon after their
trees were filled. -/
def startTime : Nat := Files.firstTime + 1000000

/-- Runs a process in a directory, with given paths opened as its input and its
outputs, for no longer than a limit in nanoseconds. -/
def run (programs : Programs) (files : Files) (directory : NodeId) (process : Process)
    (opened : List (NodeId × OpenMode)) (limit : Nat) : Outcome :=
  let first := 4711
  let handles := opened.map fun (id, mode) => (⟨.node id, 0, mode⟩ : Handle)
  let task : Task := {
    id := first
    parent := first - 1
    process
    descriptors := (List.range handles.length).map fun number => ⟨number, number, false⟩
    directory
    mask := 0o022
    dispositions := []
    caught := []
    noticed := []
    stopped := false }
  turns programs first (startTime + limit) patience 0 none 0 {
    files
    handles := handles.toArray
    pipes := #[]
    channels := []
    arrivals := []
    clock := startTime
    others := [task]
    endings := []
    nextId := first + 1 }

end HintFuzz.Kernel
