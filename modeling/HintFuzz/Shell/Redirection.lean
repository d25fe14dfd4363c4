import HintFuzz.Shell.State

/-!
# Redirections

What a descriptor leads to may be changed for one command.  Before a descriptor is
changed, a copy of it is put aside, from which it comes back.
-/

namespace HintFuzz.Shell

open Files (Fault)
open Kernel (ask)

/-- A redirection of which everything is expanded. -/
inductive Opening
  | file (descriptor : Nat) (mode : TargetMode) (path : Octets)
  /-- Without a source, the descriptor is closed. -/
  | duplicate (descriptor : Nat) (source : Option Nat)
  | document (descriptor : Nat) (text : Octets)

/-- The descriptor that is changed. -/
def Opening.descriptor : Opening → Nat
  | file descriptor _ _ | duplicate descriptor _ | document descriptor _ => descriptor

/-- The words for a file that cannot be opened: `missing` if it is not there. -/
def openingFault (missing : String) : Fault → String
  | .notFound | .notDirectory => missing
  | fault => fault.words

/-- The mode of new files, before the mask. -/
def newFileMode : Nat := 0o666

/-- Opens a file for a redirection. -/
def openTarget (mode : TargetMode) (path : Octets) : Act (Except Octets Nat) := do
  let text := Octets.toText path
  let opened (how : Kernel.OpenMode) : Act (Except Fault Nat) := ask (.open text how newFileMode)
  let complaint (verb missing : String) (fault : Fault) : Octets :=
    "cannot " ++ verb ++ " " ++ path ++ ": " ++ openingFault missing fault
  let created (how : Kernel.OpenMode) : Act (Except Octets Nat) := do
    return (← opened how).mapError (complaint "create" "Directory nonexistent")
  match mode with
  | .read => return (← opened .reading).mapError (complaint "open" "No such file")
  | .update => created { Kernel.OpenMode.reading with writes := true, creates := true }
  | .append => created .appending
  | .overwrite => created .writing
  | .write =>
    if (← get).has 'C' then
      match ← ask (.facts text true) with
      | .error _ => created { Kernel.OpenMode.writing with truncates := false, exclusive := true }
      | .ok facts =>
        if facts.kind = .file then return .error (complaint "create" "" .occupied)
        else created { Kernel.OpenMode.writing with creates := false, truncates := false }
    else created .writing

/-- How many bytes of a document go into a pipe at once.  A longer one is written
by a process of its own. -/
def documentRoom : Nat := 4096

/-- A process that writes a document into a pipe. -/
def documentWriter (reader writer : Nat) (bytes : ByteArray) (state : State) : Kernel.Process :=
  let write : Act Unit := do
    let _ ← ask (.close reader)
    let _ ← Kernel.writeAll writer bytes
  write state (fun _ _ => .ended 0) fun _ _ => .ended 0

/-- A descriptor from which a document is read. -/
def openDocument (text : Octets) : Act Nat := do
  let (reader, writer) ← ask .pipe
  let bytes := Octets.toBytes text
  if bytes.size ≤ documentRoom then
    let _ ← Kernel.writeAll writer bytes
  else
    let _ ← Kernel.start (documentWriter reader writer bytes (← get))
  let _ ← ask (.close writer)
  return reader

/-- The first number for copies of descriptors that are put aside. -/
def firstCopy : Nat := 10

/-- Puts a copy of a descriptor aside, unless that has been done. -/
def putAside (descriptor : Nat) : Act Unit := do
  match (← get).redirected with
  | [] => pure ()
  | frame :: outer =>
    unless frame.any fun entry => entry.1 = descriptor do
      let copy ← ask (.duplicateAbove descriptor firstCopy)
      modify fun state =>
        { state with redirected := ((descriptor, copy.toOption) :: frame) :: outer }

/-- Lets a descriptor lead where a new one does, which is then closed. -/
def moveTo (descriptor opened : Nat) (aside : Bool) : Act Unit := do
  if aside then
    if opened = descriptor then
      modify fun state =>
        match state.redirected with
        | frame :: outer =>
          if frame.any fun entry => entry.1 = descriptor then state
          else { state with redirected := ((descriptor, none) :: frame) :: outer }
        | [] => state
    else putAside descriptor
  unless opened = descriptor do
    let _ ← ask (.duplicate opened descriptor)
    let _ ← ask (.close opened)

/-- Carries out one redirection.  What is wrong with it is complained about, and
it is told whether all went well. -/
def redirect (aside : Bool) : Opening → Act Bool
  | .file descriptor mode path => do
    match ← openTarget mode path with
    | .error message =>
      complain message
      return false
    | .ok opened =>
      moveTo descriptor opened aside
      return true
  | .document descriptor text => do
    moveTo descriptor (← openDocument text) aside
    return true
  | .duplicate descriptor none => do
    if aside then putAside descriptor
    let _ ← ask (.close descriptor)
    return true
  | .duplicate descriptor (some source) => do
    if source = descriptor then return true
    if aside then putAside descriptor
    match ← ask (.duplicate source descriptor) with
    | .ok _ => return true
    | .error fault =>
      complain (toString source ++ ": " ++ fault.words)
      return false

/-- Carries out redirections, up to one that cannot be done. -/
def redirectAll (aside : Bool) : List Opening → Act Bool
  | [] => return true
  | opening :: rest => do
    if ← redirect aside opening then redirectAll aside rest else return false

/-- Starts redirections for one command. -/
def openRedirections : Act Unit :=
  modify fun state => { state with redirected := [] :: state.redirected }

/-- Lets the descriptors of one frame come back. -/
def restoreDescriptors : List (Nat × Option Nat) → Act Unit
  | [] => pure ()
  | (descriptor, copy) :: rest => do
    match copy with
    | none =>
      let _ ← ask (.close descriptor)
    | some copy =>
      let _ ← ask (.duplicate copy descriptor)
      let _ ← ask (.close copy)
    restoreDescriptors rest

/-- Lets descriptors come back until no more than so many frames are left. -/
def closeRedirections (count : Nat) : Act Unit := do
  let state ← get
  let frames := state.redirected.take (state.redirected.length - count)
  set { state with redirected := state.redirected.drop frames.length }
  restoreDescriptors frames.flatten

/-- Keeps what the redirections of the innermost command have changed. -/
def keepRedirections : Act Unit := do
  let state ← get
  match state.redirected with
  | [] => pure ()
  | frame :: outer =>
    set { state with redirected := [] :: outer }
    for (_, copy) in frame do
      if let some copy := copy then
        let _ ← ask (.close copy)

/-- The descriptor to which traces of commands go: that of errors as it was before
the redirections of the innermost command. -/
def State.traceDescriptor (state : State) : Nat :=
  match state.redirected with
  | frame :: _ => ((frame.find? fun entry => entry.1 = 2).bind Prod.snd).getD 2
  | [] => 2

end HintFuzz.Shell
