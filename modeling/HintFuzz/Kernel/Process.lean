import HintFuzz.Files.Basic
import HintFuzz.Text.Lines
import HintFuzz.Text.Octets

/-!
# Signals and processes

What may be sent to a process, by number and by name, and what a shell says about
a command that was ended by it.

A process is a tree: it asks the system for something and goes on with the
answer, until it ends.  Programs are written as actions on a state of their own,
which may break off at any place.
-/

/-! ### Signals -/

namespace HintFuzz

/-- What a signal does to a process. -/
inductive SignalEffect
  | ends
  /-- The process waits until it is told to go on. -/
  | stops
  | none
deriving DecidableEq, Repr

/-- A signal. -/
structure Signal where
  number : Nat
  name : String
  effect : SignalEffect
  /-- What a shell says about a command that it ended; nothing for the signals by
  which commands are meant to end. -/
  words : String
deriving DecidableEq, Repr

namespace Signal

/-- All signals. -/
def all : List Signal :=
  [⟨0, "EXIT", .none, ""⟩, ⟨1, "HUP", .ends, "Hangup"⟩, ⟨2, "INT", .ends, ""⟩,
   ⟨3, "QUIT", .ends, "Quit"⟩, ⟨4, "ILL", .ends, "Illegal instruction"⟩,
   ⟨5, "TRAP", .ends, "Trace/breakpoint trap"⟩, ⟨6, "ABRT", .ends, "Aborted"⟩,
   ⟨7, "BUS", .ends, "Bus error"⟩, ⟨8, "FPE", .ends, "Floating point exception"⟩,
   ⟨9, "KILL", .ends, "Killed"⟩, ⟨10, "USR1", .ends, "User defined signal 1"⟩,
   ⟨11, "SEGV", .ends, "Segmentation fault"⟩, ⟨12, "USR2", .ends, "User defined signal 2"⟩,
   ⟨13, "PIPE", .ends, ""⟩, ⟨14, "ALRM", .ends, "Alarm clock"⟩,
   ⟨15, "TERM", .ends, "Terminated"⟩, ⟨16, "STKFLT", .ends, "Stack fault"⟩,
   ⟨17, "CHLD", .none, ""⟩, ⟨18, "CONT", .none, ""⟩, ⟨19, "STOP", .stops, ""⟩,
   ⟨20, "TSTP", .stops, ""⟩, ⟨21, "TTIN", .stops, ""⟩, ⟨22, "TTOU", .stops, ""⟩,
   ⟨23, "URG", .none, ""⟩, ⟨24, "XCPU", .ends, "CPU time limit exceeded"⟩,
   ⟨25, "XFSZ", .ends, "File size limit exceeded"⟩,
   ⟨26, "VTALRM", .ends, "Virtual timer expired"⟩,
   ⟨27, "PROF", .ends, "Profiling timer expired"⟩, ⟨28, "WINCH", .none, ""⟩,
   ⟨29, "IO", .ends, "I/O possible"⟩, ⟨30, "PWR", .ends, "Power failure"⟩,
   ⟨31, "SYS", .ends, "Bad system call"⟩]

/-- The signal of a number or a name. -/
def ofText? (text : String) : Option Signal :=
  all.find? fun signal => toString signal.number = text ∨ signal.name = text

end Signal

end HintFuzz

/-! ### Processes -/

namespace HintFuzz.Kernel

open Files (Fault)

/-- How a process has ended. -/
inductive Ending
  | exited (code : Nat)
  | killed (signal : Signal)
deriving DecidableEq

/-- What a file is opened for. -/
structure OpenMode where
  reads : Bool
  writes : Bool
  /-- All writing goes to the end. -/
  appends : Bool
  /-- The file is made if it is missing. -/
  creates : Bool
  /-- The file is emptied. -/
  truncates : Bool
  /-- The file must not be there before. -/
  exclusive : Bool

namespace OpenMode

/-- For reading. -/
def reading : OpenMode := ⟨true, false, false, false, false, false⟩

/-- For writing a file anew. -/
def writing : OpenMode := ⟨false, true, false, true, true, false⟩

/-- For writing at the end of a file. -/
def appending : OpenMode := ⟨false, true, true, true, false, false⟩

end OpenMode

/-- The place that an offset counts from. -/
inductive Whence
  | start
  | here
  | finish

/-- The kinds of nodes that programs tell apart. -/
inductive Kind
  | file
  | directory
  | link
  | device
  | channel
deriving DecidableEq

/-- What can be known about a node without reading it. -/
structure Facts where
  id : NodeId
  kind : Kind
  size : Nat
  mode : Nat
  links : Nat
  modified : Nat

/-- What a process does about a signal. -/
inductive Disposition
  | usual
  | ignored
  /-- The process asks for it when it likes. -/
  | caught
deriving DecidableEq

/-- What comes of waiting for children. -/
inductive Collected
  | ended (child : Nat) (ending : Ending)
  /-- None has ended so far. -/
  | running
  | childless
  | interrupted

/-- What a process may ask the system for, with the type of the answer. -/
inductive Call : Type → Type
  | read (descriptor count : Nat) : Call (Except Fault ByteArray)
  | write (descriptor : Nat) (bytes : ByteArray) : Call (Except Fault Nat)
  | open (path : String) (mode : OpenMode) (permission : Nat) : Call (Except Fault Nat)
  | close (descriptor : Nat) : Call (Except Fault Unit)
  /-- Lets the second descriptor lead where the first one does. -/
  | duplicate (source target : Nat) : Call (Except Fault Unit)
  /-- A new descriptor that leads where another one does, not below a number; it
  is closed when the process becomes another program. -/
  | duplicateAbove (source least : Nat) : Call (Except Fault Nat)
  /-- The two ends of a new pipe: the one to read and the one to write. -/
  | pipe : Call (Nat × Nat)
  | seek (descriptor : Nat) (whence : Whence) (offset : Int) : Call (Except Fault Nat)
  | resize (descriptor length : Nat) : Call (Except Fault Unit)
  | factsOf (descriptor : Nat) : Call (Except Fault Facts)
  | facts (path : String) (through : Bool) : Call (Except Fault Facts)
  | list (path : String) : Call (Except Fault (List String))
  | makeDirectory (path : String) (permission : Nat) : Call (Except Fault Unit)
  | makeChannel (path : String) (permission : Nat) : Call (Except Fault Unit)
  | removeDirectory (path : String) : Call (Except Fault Unit)
  | remove (path : String) : Call (Except Fault Unit)
  | rename (source target : String) : Call (Except Fault Unit)
  | link (source target : String) : Call (Except Fault Unit)
  | makeLink (content path : String) : Call (Except Fault Unit)
  | readLink (path : String) : Call (Except Fault String)
  | setMode (path : String) (mode : Nat) : Call (Except Fault Unit)
  | setTime (path : String) (through : Bool) (time : Option Nat) : Call (Except Fault Unit)
  | enter (path : String) : Call (Except Fault Unit)
  | here : Call (Except Fault String)
  /-- Sets what new files may not be used for, and gives what it was. -/
  | mask (mask : Option Nat) : Call Nat
  | wait (child : Option Nat) (hang : Bool) : Call Collected
  | signal (target : Int) (signal : Signal) : Call (Except Fault Unit)
  | dispose (signal : Signal) (disposition : Disposition) : Call Disposition
  /-- The signals that were caught since the last time. -/
  | caught : Call (List Signal)
  /-- Waits until a time, or until a signal is caught. -/
  | sleep (time : Nat) : Call Unit
  | clock : Call Nat
  | self : Call Nat
  | parent : Call Nat
  /-- Nothing; it takes a moment. -/
  | moment : Call Unit

/-- The variables that a program is given. -/
abbrev Environment := List (Octets × Octets)

/-- A process, from some place of its program on. -/
inductive Process : Type 1
  | ended (status : Nat)
  | call {α : Type} (request : Call α) (next : α → Process)
  /-- Splits into two processes.  The number of the child is known to the parent
  alone. -/
  | split (child : Process) (next : Nat → Process)
  /-- Becomes another program, unless that fails. -/
  | become (path : String) (args : List Octets) (environment : Environment)
      (failed : Fault → Process)

/-- The paths at which a program of a name may be. -/
def candidates (path : Octets) (name : Octets) : List Octets :=
  if name.toList.contains '/' then [name]
  else (Text.stretches ':' path.toList).map fun directory =>
    if directory.isEmpty then "./" ++ name else String.ofList directory ++ "/" ++ name

/-- The programs of a system by their names.  The first argument is the name that
the program is called by. -/
abbrev Programs := String → Option (List Octets → Environment → Process)

/-- Something that a program does: given its state, what is done if it breaks off,
and how it goes on. -/
def Act (ε σ α : Type) : Type 1 :=
  σ → (ε → σ → Process) → (α → σ → Process) → Process

namespace Act

variable {ε σ α β : Type}

instance : Monad (Act ε σ) where
  pure a := fun state _ next => next a state
  bind action f := fun state broken next =>
    action state broken fun a state => f a state broken next

instance : MonadStateOf σ (Act ε σ) where
  get := fun state _ next => next state state
  set state := fun _ _ next => next ⟨⟩ state
  modifyGet f := fun state _ next =>
    let (a, state) := f state
    next a state

instance : MonadExceptOf ε (Act ε σ) where
  throw reason := fun state broken _ => broken reason state
  tryCatch action handler := fun state broken next =>
    action state (fun reason state => handler reason state broken next) next

instance [Inhabited α] : Inhabited (Act ε σ α) where
  default := pure default

end Act

/-- What comes of something that may break off. -/
def attempt {ε ε' σ α : Type} (action : Act ε σ α) : Act ε' σ (Except ε α) :=
  fun state _ next => action state (fun reason state => next (.error reason) state) fun a state =>
    next (.ok a) state

/-- Asks the system for something. -/
def ask {ε σ α : Type} (request : Call α) : Act ε σ α :=
  fun state _ next => .call request fun answer => next answer state

/-- Starts a process and gives its number. -/
def start {ε σ : Type} (child : Process) : Act ε σ Nat :=
  fun state _ next => .split child fun id => next id state

/-- Becomes another program.  It goes on only if that fails. -/
def become {ε σ : Type} (path : String) (args : List Octets) (environment : Environment) :
    Act ε σ Fault :=
  fun state _ next => .become path args environment fun fault => next fault state

/-- Something that is done again and again until it says that it is over, or a
great many times. -/
def again {ε σ : Type} (round : Act ε σ Bool) : (fuel : Nat) → Act ε σ Unit
  | 0 => pure ()
  | fuel + 1 => do
    if ← round then again round fuel

/-- More rounds than any process lives to see. -/
def ages : Nat := 1000000000000

/-- Something that is done until it says that it is over. -/
def repeatedly {ε σ : Type} (round : Act ε σ Bool) : Act ε σ Unit :=
  again round ages

/-- Writes all of some bytes to a descriptor, if that can be done. -/
def writeSome {ε σ : Type} (descriptor : Nat) : (fuel : Nat) → ByteArray →
    Act ε σ (Except Fault Unit)
  | 0, _ => return .ok ()
  | fuel + 1, bytes => do
    match ← ask (.write descriptor bytes) with
    | .error .interrupted => writeSome descriptor fuel bytes
    | .error fault => return .error fault
    | .ok count =>
      if bytes.size ≤ count then return .ok ()
      else writeSome descriptor fuel (bytes.extract count bytes.size)

/-- Writes all of some bytes to a descriptor, if that can be done. -/
def writeAll {ε σ : Type} (descriptor : Nat) (bytes : ByteArray) : Act ε σ (Except Fault Unit) :=
  if bytes.isEmpty then return .ok () else writeSome descriptor ages bytes

/-- How many bytes are read at once. -/
def readSize : Nat := 65536

/-- All bytes that can be read from a descriptor, behind `before`, whose last part
comes first. -/
def readSome {ε σ : Type} (descriptor : Nat) : (fuel : Nat) → (before : List ByteArray) →
    Act ε σ (Except Fault (List ByteArray))
  | 0, before => return .ok before
  | fuel + 1, before => do
    match ← ask (.read descriptor readSize) with
    | .error .interrupted => readSome descriptor fuel before
    | .error fault => return .error fault
    | .ok bytes =>
      if bytes.isEmpty then return .ok before
      else readSome descriptor fuel (bytes :: before)

/-- All bytes that can be read from a descriptor. -/
def readAll {ε σ : Type} (descriptor : Nat) : Act ε σ (Except Fault ByteArray) := do
  match ← readSome descriptor ages [] with
  | .error fault => return .error fault
  | .ok parts => return .ok (parts.reverse.foldl (· ++ ·) .empty)

end HintFuzz.Kernel
