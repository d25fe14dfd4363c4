import HintFuzz.Files.Change
import HintFuzz.Kernel.Process

/-!
# The machine that processes run on

Files, what is open, pipes, and the processes with what each of them has.  The
task whose turn it is asks, and the machine answers or says that there is no
answer yet.
-/

namespace HintFuzz.Kernel

open Files (Fault)

/-- What an open file is. -/
inductive Opened
  | node (id : NodeId)
  | readEnd (pipe : Nat)
  | writeEnd (pipe : Nat)
deriving DecidableEq

/-- An open file.  Descriptors that were made from one another share it. -/
structure Handle where
  opened : Opened
  offset : Nat
  mode : OpenMode

/-- A descriptor of a task. -/
structure Descriptor where
  number : Nat
  handle : Nat
  /-- It is closed when the task becomes another program. -/
  closing : Bool

/-- A process with what belongs to it. -/
structure Task where
  id : Nat
  parent : Nat
  process : Process
  descriptors : List Descriptor
  directory : NodeId
  mask : Nat
  dispositions : List (Signal × Disposition)
  /-- Signals that were caught and that have interrupted nothing so far. -/
  caught : List Signal
  /-- Signals that have interrupted something and were not asked for. -/
  noticed : List Signal
  stopped : Bool

/-- A task that waits until a channel has both ends. -/
structure Arrival where
  task : Nat
  /-- The pipe of the channel. -/
  pipe : Nat
  writes : Bool
  /-- Somebody has opened the other end, so that this one counts as opened. -/
  met : Bool

/-- What a task will have open that waits for an end of a channel. -/
def Arrival.opened (arrival : Arrival) : Opened :=
  if arrival.writes then .writeEnd arrival.pipe else .readEnd arrival.pipe

/-- The machine. -/
structure Machine where
  files : Files
  handles : Array Handle
  /-- What was written into pipes and not read. -/
  pipes : Array ByteArray
  /-- The pipes of channels. -/
  channels : List (NodeId × Nat)
  arrivals : List Arrival
  /-- The time, in nanoseconds. -/
  clock : Nat
  /-- The tasks whose turn it is not, the next one first. -/
  others : List Task
  /-- Children that have ended and were not collected, with their parents. -/
  endings : List (Nat × Nat × Ending)
  nextId : Nat

/-- What comes of a request. -/
inductive Answer (α : Type)
  | given (answer : α)
  /-- There is no answer yet; perhaps there is one at a given time. -/
  | blocked (wake : Option Nat)
  /-- The task ends. -/
  | killed (signal : Signal)

/-- What a machine does for a task. -/
abbrev Service (α : Type) := Task → Machine → Answer α × Task × Machine

namespace Service

variable {α : Type}

/-- An answer that changes nothing. -/
def answer (a : α) : Service α := fun task machine => (.given a, task, machine)

/-- An answer to something that was interrupted by signals. -/
def interrupted (a : α) : Service α := fun task machine =>
  (.given a, { task with caught := [], noticed := task.noticed ++ task.caught }, machine)

/-- No answer yet. -/
def later (wake : Option Nat) : Service α := fun task machine => (.blocked wake, task, machine)

end Service

/-- How many bytes a pipe holds. -/
def pipeRoom : Nat := 65536

/-- The signal for writing into a pipe that nobody reads. -/
def brokenPipe : Signal := ⟨13, "PIPE", .ends, ""⟩

namespace Task

/-- The descriptor of a number. -/
def descriptor? (task : Task) (number : Nat) : Option Descriptor :=
  task.descriptors.find? fun descriptor => descriptor.number = number

/-- The least number from some number on that no descriptor has. -/
def freeNumber (task : Task) (least : Nat) : Nat :=
  ((List.range (task.descriptors.length + 1)).find? fun offset =>
    (task.descriptor? (least + offset)).isNone).getD 0 + least

/-- A task with a descriptor in place of the one of that number. -/
def withDescriptor (task : Task) (descriptor : Descriptor) : Task :=
  { task with
    descriptors := descriptor ::
      task.descriptors.filter fun other => other.number ≠ descriptor.number }

/-- What a task does about a signal. -/
def disposition (task : Task) (signal : Signal) : Disposition :=
  ((task.dispositions.find? fun entry => entry.1 = signal).map Prod.snd).getD .usual

end Task

namespace Machine

/-- The open file that a descriptor leads to. -/
def handleOf (machine : Machine) (task : Task) (number : Nat) : Except Fault (Nat × Handle) :=
  match task.descriptor? number with
  | none => .error .badDescriptor
  | some descriptor =>
    match machine.handles[descriptor.handle]? with
    | some handle => .ok (descriptor.handle, handle)
    | none => .error .badDescriptor

/-- Whether some task has a descriptor of something open, or is about to get one. -/
def isHeld (machine : Machine) (task : Task) (opened : Opened) : Bool :=
  ((task :: machine.others).any fun task =>
    task.descriptors.any fun descriptor =>
      (machine.handles[descriptor.handle]?.map Handle.opened) = some opened) ||
  machine.arrivals.any fun arrival => arrival.met && arrival.opened = opened

/-- The machine with something open, and a descriptor of it for a task. -/
def openNew (machine : Machine) (task : Task) (handle : Handle) : Nat × Task × Machine :=
  let number := task.freeNumber 0
  (number, task.withDescriptor ⟨number, machine.handles.size, false⟩,
    { machine with handles := machine.handles.push handle })

/-- The machine with the offset of an open file moved. -/
def moveTo (machine : Machine) (handle offset : Nat) : Machine :=
  { machine with handles := machine.handles.modify handle fun handle => { handle with offset } }

/-- The machine with a file of a node marked as changed now. -/
def stamp (machine : Machine) (id : NodeId) : Machine :=
  { machine with
    files := machine.files.change id fun node => { node with modified := machine.clock } }

/-! ### Signals -/

/-- A task after a signal; none if the task ends. -/
def deliver (signal : Signal) (task : Task) : Option Task :=
  let usual : Option Task :=
    match signal.effect with
    | .ends => none
    | .stops => some { task with stopped := true }
    | .none => some { task with stopped := task.stopped && signal.name ≠ "CONT" }
  if signal.number = 0 then some task
  else if signal.name = "KILL" ∨ signal.name = "STOP" then usual
  else
    match task.disposition signal with
    | .usual => usual
    | .ignored => some task
    | .caught =>
      some { task with
        caught := if task.caught.contains signal then task.caught else task.caught ++ [signal]
        stopped := task.stopped && signal.name ≠ "CONT" }

/-- The machine after another task ended.  What it was the parent of belongs to
nobody. -/
def bury (machine : Machine) (task : Task) (ending : Ending) : Machine :=
  { machine with
    others := (machine.others.filter fun other => other.id ≠ task.id).map fun other =>
      if other.parent = task.id then { other with parent := 1 } else other
    arrivals := machine.arrivals.filter fun arrival => arrival.task ≠ task.id
    endings :=
      (machine.endings.filter fun entry => entry.1 ≠ task.id) ++ [(task.parent, task.id, ending)] }

/-- Sends a signal to the tasks that a number stands for: a task, or all of them. A
number below that stands for a group that no task is in. -/
def sendSignal (target : Int) (signal : Signal) : Service (Except Fault Unit) :=
  fun task machine =>
    let all := target = 0 || target = -1
    let isMeant (id : Nat) : Bool := all || (id : Int) = target
    let targets := machine.others.filter fun other => isMeant other.id
    let machine := targets.foldl (fun machine other =>
      match deliver signal other with
      | none => machine.bury other (.killed signal)
      | some changed =>
        { machine with
          others := machine.others.map fun other =>
            if other.id = changed.id then changed else other }) machine
    if isMeant task.id then
      match deliver signal task with
      | none => (.killed signal, task, machine)
      | some task => (.given (.ok ()), task, machine)
    else if targets.isEmpty ∧ !(machine.endings.any fun entry => isMeant entry.2.1) then
      (.given (.error .noProcess), task, machine)
    else (.given (.ok ()), task, machine)

/-! ### Reading and writing -/

/-- Bytes of an endless device, from an offset on. -/
def deviceBytes (device : Device) (offset count : Nat) : ByteArray :=
  match device with
  | .zero | .full => ⟨Array.replicate count 0⟩
  | .random =>
    ⟨((List.range count).map fun (index : Nat) =>
      let n := offset + index
      UInt8.ofNat ((n * n * 31 + n * 167 + n / 7 * 59) / 3)).toArray⟩
  | _ => .empty

/-- The most bytes that are read at once from what has no end. -/
def mostAtOnce : Nat := 1048576

/-- Reads from a descriptor.  No bytes are the end. -/
def read (number count : Nat) : Service (Except Fault ByteArray) := fun task machine =>
  match machine.handleOf task number with
  | .error fault => Service.answer (.error fault) task machine
  | .ok (index, handle) =>
    if !handle.mode.reads then Service.answer (.error .badDescriptor) task machine
    else
      match handle.opened with
      | .node id =>
        match machine.files.content? id with
        | some (.file bytes) =>
          let part := bytes.extract handle.offset (handle.offset + count)
          (.given (.ok part), task, machine.moveTo index (handle.offset + part.size))
        | some (.device device) =>
          let count := if count < mostAtOnce then count else mostAtOnce
          (.given (.ok (deviceBytes device handle.offset count)), task,
            machine.moveTo index (handle.offset + count))
        | some (.directory _ _) => Service.answer (.error .isDirectory) task machine
        | _ => Service.answer (.ok .empty) task machine
      | .readEnd pipe =>
        let bytes := machine.pipes.getD pipe .empty
        if count = 0 then Service.answer (.ok .empty) task machine
        else if bytes.isEmpty then
          if machine.isHeld task (.writeEnd pipe) then
            if task.caught.isEmpty then Service.later none task machine
            else Service.interrupted (.error .interrupted) task machine
          else Service.answer (.ok .empty) task machine
        else
          (.given (.ok (bytes.extract 0 count)), task,
            { machine with pipes := machine.pipes.set! pipe (bytes.extract count bytes.size) })
      | .writeEnd _ => Service.answer (.error .badDescriptor) task machine

/-- The time that it takes to write a byte to a file, in nanoseconds. -/
def fileByteLength : Nat := 2

/-- The time that it takes to write a byte to a pipe, in nanoseconds. -/
def pipeByteLength : Nat := 20

/-- Writes to a descriptor, and tells how many bytes were written. -/
def write (number : Nat) (bytes : ByteArray) : Service (Except Fault Nat) := fun task machine =>
  match machine.handleOf task number with
  | .error fault => Service.answer (.error fault) task machine
  | .ok (index, handle) =>
    if !handle.mode.writes then Service.answer (.error .badDescriptor) task machine
    else
      match handle.opened with
      | .node id =>
        let offset := if handle.mode.appends then none else some handle.offset
        match machine.files.writeAt id offset bytes with
        | .error fault => Service.answer (.error fault) task machine
        | .ok files =>
          let clock := machine.clock + bytes.size * fileByteLength
          let machine := { machine with files, clock }.stamp id
          (.given (.ok bytes.size), task, machine.moveTo index (handle.offset + bytes.size))
      | .writeEnd pipe =>
        let before := machine.pipes.getD pipe .empty
        let room := pipeRoom - before.size
        if !machine.isHeld task (.readEnd pipe) then
          match deliver brokenPipe task with
          | none => (.killed brokenPipe, task, machine)
          | some task => (.given (.error .brokenPipe), task, machine)
        else if bytes.isEmpty then Service.answer (.ok 0) task machine
        else if room = 0 then
          if task.caught.isEmpty then Service.later none task machine
          else Service.interrupted (.error .interrupted) task machine
        else
          let part := bytes.extract 0 room
          (.given (.ok part.size), task,
            { machine with
              pipes := machine.pipes.set! pipe (before ++ part)
              clock := machine.clock + part.size * pipeByteLength })
      | .readEnd _ => Service.answer (.error .badDescriptor) task machine

/-! ### Opening -/

/-- The pipe of a channel. -/
def channelPipe (machine : Machine) (id : NodeId) : Nat × Machine :=
  match machine.channels.find? fun entry => entry.1 = id with
  | some (_, pipe) => (pipe, machine)
  | none =>
    let pipe := machine.pipes.size
    (pipe, { machine with
      pipes := machine.pipes.push .empty, channels := (id, pipe) :: machine.channels })

/-- Opens one end of a channel, or both at once.  Who opens one end waits for
somebody who opens the other one. -/
def openChannel (id : NodeId) (mode : OpenMode) : Service (Except Fault Nat) := fun task machine =>
  let (pipe, machine) := machine.channelPipe id
  let mine := if mode.writes then Opened.writeEnd pipe else Opened.readEnd pipe
  let other := if mode.writes then Opened.readEnd pipe else Opened.writeEnd pipe
  let met := machine.arrivals.any fun arrival => arrival.task = task.id && arrival.met
  if met ∨ (mode.reads && mode.writes) ∨ machine.isHeld task other ∨
      machine.arrivals.any fun arrival => arrival.opened = other then
    let arrivals := (machine.arrivals.filter fun arrival => arrival.task ≠ task.id).map
      fun arrival =>
        if arrival.opened = other then { arrival with met := true } else arrival
    let (number, task, machine) := { machine with arrivals }.openNew task ⟨mine, 0, mode⟩
    (.given (.ok number), task, machine)
  else
    let others := machine.arrivals.filter fun arrival => arrival.task ≠ task.id
    Service.later none task
      { machine with arrivals := ⟨task.id, pipe, mode.writes, false⟩ :: others }

/-- Opens a node. -/
def openNode (id : NodeId) (mode : OpenMode) : Service (Except Fault Nat) := fun task machine =>
  let plain (task : Task) (machine : Machine) : Answer (Except Fault Nat) × Task × Machine :=
    let (number, task, machine) := machine.openNew task ⟨.node id, 0, mode⟩
    (.given (.ok number), task, machine)
  match machine.files.content? id with
  | some (.directory _ _) =>
    if mode.writes then Service.answer (.error .isDirectory) task machine else plain task machine
  | some (.device .terminal) => Service.answer (.error .noDevice) task machine
  | some (.device (.standard number)) =>
    match machine.handleOf task number with
    | .error _ => Service.answer (.error .notFound) task machine
    | .ok (_, handle) =>
      match handle.opened with
      | .node id =>
        let machine := if mode.truncates then { machine with files := machine.files.resizeAt id 0 }
          else machine
        let (number, task, machine) := machine.openNew task ⟨.node id, 0, mode⟩
        (.given (.ok number), task, machine)
      | .readEnd pipe | .writeEnd pipe =>
        let opened := if mode.writes then Opened.writeEnd pipe else Opened.readEnd pipe
        let (number, task, machine) := machine.openNew task ⟨opened, 0, mode⟩
        (.given (.ok number), task, machine)
  | some .channel => openChannel id mode task machine
  | some (.file _) =>
    if mode.truncates then
      plain task ({ machine with files := machine.files.resizeAt id 0 }.stamp id)
    else plain task machine
  | _ => plain task machine

/-- Opens what a path leads to. -/
def openPath (path : String) (mode : OpenMode) (permission : Nat) : Service (Except Fault Nat) :=
  fun task machine =>
    if mode.creates then
      let permission := permission - (permission &&& task.mask)
      match machine.files.resolveFrom task.directory path (!mode.exclusive) with
      | .ok (.found id) =>
        if mode.exclusive then Service.answer (.error .occupied) task machine
        else if Files.endsInDirectory path then Service.answer (.error .isDirectory) task machine
        else openNode id mode task machine
      | _ =>
        match machine.files.provideFile task.directory path permission machine.clock with
        | .error fault => Service.answer (.error fault) task machine
        | .ok (id, _, files) => openNode id mode task { machine with files }
    else
      match machine.files.locate task.directory path true with
      | .error fault => Service.answer (.error fault) task machine
      | .ok id => openNode id mode task machine

/-! ### Descriptors -/

/-- Lets a descriptor lead where another one does. -/
def duplicate (source target : Nat) : Service (Except Fault Unit) := fun task machine =>
  match task.descriptor? source with
  | none => Service.answer (.error .badDescriptor) task machine
  | some descriptor =>
    if source = target then Service.answer (.ok ()) task machine
    else
      (.given (.ok ()), task.withDescriptor ⟨target, descriptor.handle, false⟩, machine)

/-- Makes a new descriptor that leads where another one does. -/
def duplicateAbove (source least : Nat) : Service (Except Fault Nat) := fun task machine =>
  match task.descriptor? source with
  | none => Service.answer (.error .badDescriptor) task machine
  | some descriptor =>
    let number := task.freeNumber least
    (.given (.ok number), task.withDescriptor ⟨number, descriptor.handle, true⟩, machine)

/-- Closes a descriptor. -/
def close (number : Nat) : Service (Except Fault Unit) := fun task machine =>
  match task.descriptor? number with
  | none => Service.answer (.error .badDescriptor) task machine
  | some _ =>
    (.given (.ok ()),
      { task with
        descriptors := task.descriptors.filter fun other => other.number ≠ number }, machine)

/-- Makes a pipe. -/
def makePipe : Service (Nat × Nat) := fun task machine =>
  let pipe := machine.pipes.size
  let machine := { machine with pipes := machine.pipes.push .empty }
  let (reader, task, machine) := machine.openNew task ⟨.readEnd pipe, 0, .reading⟩
  let (writer, task, machine) :=
    machine.openNew task ⟨.writeEnd pipe, 0, { OpenMode.writing with creates := false }⟩
  (.given (reader, writer), task, machine)

/-- What is known about a node. -/
def factsAt (machine : Machine) (id : NodeId) : Except Fault Facts :=
  match machine.files.node? id with
  | none => .error .notFound
  | some node =>
    let (kind, size) : Kind × Nat := match node.content with
      | .directory _ _ => (.directory, 4096)
      | .file bytes => (.file, bytes.size)
      | .link path => (.link, path.utf8ByteSize)
      | .device _ => (.device, 0)
      | .channel => (.channel, 0)
      | .program _ => (.file, 35664)
    let links := match node.content with
      | .directory _ entries =>
        2 + (entries.filter fun entry => machine.files.isDirectory entry.2).length
      | _ => machine.files.nameCount id
    .ok ⟨id, kind, size, node.mode, links, node.modified⟩

/-- What is known about what a descriptor leads to. -/
def factsOf (number : Nat) : Service (Except Fault Facts) := fun task machine =>
  Service.answer (do
    let (_, handle) ← machine.handleOf task number
    match handle.opened with
    | .node id => machine.factsAt id
    | .readEnd _ | .writeEnd _ => .ok ⟨0, .channel, 0, 0o600, 1, 0⟩) task machine

/-- Moves the offset of an open file, and gives it. -/
def seek (number : Nat) (whence : Whence) (offset : Int) : Service (Except Fault Nat) :=
  fun task machine =>
    match machine.handleOf task number with
    | .error fault => Service.answer (.error fault) task machine
    | .ok (index, handle) =>
      match handle.opened with
      | .node id =>
        let size := match machine.files.content? id with
          | some (.file bytes) => bytes.size
          | _ => 0
        let target : Int := match whence with
          | .start => offset
          | .here => handle.offset + offset
          | .finish => size + offset
        if target < 0 then Service.answer (.error .invalid) task machine
        else (.given (.ok target.toNat), task, machine.moveTo index target.toNat)
      | _ => Service.answer (.error .noSeek) task machine

/-- Gives an open file another length. -/
def resize (number length : Nat) : Service (Except Fault Unit) := fun task machine =>
  match machine.handleOf task number with
  | .error fault => Service.answer (.error fault) task machine
  | .ok (_, handle) =>
    match handle.opened with
    | .node id =>
      (.given (.ok ()), task,
        { machine with files := machine.files.resizeAt id length }.stamp id)
    | _ => Service.answer (.error .invalid) task machine

/-! ### Files -/

/-- Something that is known from the files alone. -/
def look {α : Type} (found : Task → Machine → Except Fault α) : Service (Except Fault α) :=
  fun task machine => Service.answer (found task machine) task machine

/-- A change of the files. -/
def changeFiles (changed : Task → Machine → Except Fault Files) : Service (Except Fault Unit) :=
  fun task machine =>
    match changed task machine with
    | .ok files => (.given (.ok ()), task, { machine with files })
    | .error fault => Service.answer (.error fault) task machine

/-- A change of one node. -/
def changeNode (path : String) (through : Bool) (f : Machine → Node → Node) :
    Service (Except Fault Unit) :=
  changeFiles fun task machine => do
    let id ← machine.files.locate task.directory path through
    return machine.files.change id (f machine)

/-- Goes into a directory. -/
def enter (path : String) : Service (Except Fault Unit) := fun task machine =>
  match machine.files.locate task.directory path true with
  | .error fault => Service.answer (.error fault) task machine
  | .ok id =>
    if machine.files.isDirectory id then
      (.given (.ok ()), { task with directory := id }, machine)
    else Service.answer (.error .notDirectory) task machine

/-- What a link holds. -/
def readLink (path : String) : Service (Except Fault String) :=
  look fun task machine => do
    match machine.files.content? (← machine.files.locate task.directory path false) with
    | some (.link content) => .ok content
    | _ => .error .invalid

/-- The names in a directory, in their order. -/
def list (path : String) : Service (Except Fault (List String)) :=
  look fun task machine => do
    let id ← machine.files.locate task.directory path true
    if machine.files.isDirectory id then .ok ((machine.files.entries id).map Prod.fst)
    else .error .notDirectory

/-! ### Processes -/

/-- Collects a child that has ended. -/
def collect (child : Option Nat) (hang : Bool) : Service Collected := fun task machine =>
  let isMeant (entry : Nat × Nat × Ending) : Bool :=
    entry.1 = task.id && (child.isNone || child = some entry.2.1)
  match machine.endings.find? isMeant with
  | some (_, id, ending) =>
    (.given (.ended id ending), task,
      { machine with endings := machine.endings.filter fun entry => entry.2.1 ≠ id })
  | none =>
    let lives := machine.others.any fun other =>
      other.parent = task.id && (child.isNone || child = some other.id)
    if !lives then Service.answer .childless task machine
    else if !hang then Service.answer .running task machine
    else if task.caught.isEmpty then Service.later none task machine
    else Service.interrupted .interrupted task machine

/-- Sets what is done about a signal, and gives what was done before. -/
def dispose (signal : Signal) (disposition : Disposition) : Service Disposition :=
  fun task machine =>
    let others := task.dispositions.filter fun entry => entry.1 ≠ signal
    (.given (task.disposition signal),
      { task with dispositions := (signal, disposition) :: others }, machine)

/-- The signals that were caught. -/
def takeCaught : Service (List Signal) := fun task machine =>
  (.given (task.noticed ++ task.caught), { task with caught := [], noticed := [] }, machine)

/-- Waits until a time. -/
def sleep (time : Nat) : Service Unit := fun task machine =>
  if time ≤ machine.clock then Service.answer () task machine
  else if !task.caught.isEmpty then Service.interrupted () task machine
  else Service.later (some time) task machine

/-- Sets the mask of new files, and gives the one before. -/
def setMask (mask : Option Nat) : Service Nat := fun task machine =>
  (.given task.mask, { task with mask := mask.getD task.mask }, machine)

end Machine

/-- What a machine does when it is asked for something. -/
def Call.serve {α : Type} : Call α → Service α
  | .read number count => Machine.read number count
  | .write number bytes => Machine.write number bytes
  | .open path mode permission => Machine.openPath path mode permission
  | .close number => Machine.close number
  | .duplicate source target => Machine.duplicate source target
  | .duplicateAbove source least => Machine.duplicateAbove source least
  | .pipe => Machine.makePipe
  | .seek number whence offset => Machine.seek number whence offset
  | .resize number length => Machine.resize number length
  | .factsOf number => Machine.factsOf number
  | .facts path through => Machine.look fun task machine => do
    machine.factsAt (← machine.files.locate task.directory path through)
  | .list path => Machine.list path
  | .makeDirectory path permission => Machine.changeFiles fun task machine =>
    machine.files.makeDirectory task.directory path (permission - (permission &&& task.mask))
      machine.clock
  | .makeChannel path permission => Machine.changeFiles fun task machine =>
    machine.files.makeNode task.directory path
      ⟨.channel, permission - (permission &&& task.mask), machine.clock⟩
  | .removeDirectory path => Machine.changeFiles fun task machine =>
    machine.files.removeDirectory task.directory path
  | .remove path => Machine.changeFiles fun task machine => machine.files.remove task.directory path
  | .rename source target => Machine.changeFiles fun task machine =>
    machine.files.rename task.directory source target
  | .link source target => Machine.changeFiles fun task machine =>
    machine.files.link task.directory source target
  | .makeLink content path => Machine.changeFiles fun task machine =>
    machine.files.makeNode task.directory path ⟨.link content, 0o777, machine.clock⟩
  | .readLink path => Machine.readLink path
  | .setMode path mode => Machine.changeNode path true fun _ node => { node with mode }
  | .setTime path through time => Machine.changeNode path through fun machine node =>
    { node with modified := time.getD machine.clock }
  | .enter path => Machine.enter path
  | .here => Machine.look fun task machine => machine.files.absolutePath task.directory
  | .mask change => Machine.setMask change
  | .wait child hang => Machine.collect child hang
  | .signal target which => Machine.sendSignal target which
  | .dispose which disposition => Machine.dispose which disposition
  | .caught => Machine.takeCaught
  | .sleep time => Machine.sleep time
  | .clock => fun task machine => Service.answer machine.clock task machine
  | .self => fun task machine => Service.answer task.id task machine
  | .parent => fun task machine => Service.answer task.parent task machine
  | .moment => Service.answer ()

end HintFuzz.Kernel
