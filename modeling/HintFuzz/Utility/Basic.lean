import HintFuzz.Kernel.Process
import HintFuzz.Text.WordQuoting

/-!
# Utilities

Programs that read their options, work on files and end.  What they print is
gathered and written in larger pieces; complaints are written at once, and the
utility goes on where it can.
-/

namespace HintFuzz.Utility

open Files (Fault)
open Kernel (ask)

/-- The state of a utility. -/
structure Tool where
  /-- The name that it was called by. -/
  name : Octets
  environment : Kernel.Environment
  /-- What was printed and is not written, the last part first. -/
  output : List Octets
  /-- How many characters that are. -/
  pending : Nat
  /-- Why writing has failed. -/
  broken : Option Fault
  status : Nat
  /-- The status of a failure. -/
  failure : Nat
  /-- How the utility is to be called; shown to those who do not know. -/
  usage : Octets

/-- Something that a utility does.  It may break off with a status. -/
abbrev Act := Kernel.Act Nat Tool

/-! ### Output -/

/-- How many characters are gathered before they are written. -/
def gatherSize : Nat := 4096

/-- Writes what was printed. -/
def flush : Act Unit := do
  let tool ← get
  unless tool.output.isEmpty do
    set { tool with output := [], pending := 0 }
    let bytes := Octets.toBytes (String.join tool.output.reverse)
    if tool.broken.isNone then
      if let .error fault := ← Kernel.writeAll 1 bytes then
        modify fun tool => { tool with broken := some fault }

/-- Prints a text. -/
def print (text : Octets) : Act Unit := do
  modify fun tool =>
    { tool with output := text :: tool.output, pending := tool.pending + text.length }
  if gatherSize ≤ (← get).pending then flush

/-- Prints a line. -/
def printLine (text : Octets) : Act Unit :=
  print (text ++ "\n")

/-- Writes bytes at once, behind what was printed. -/
def writeBytes (bytes : ByteArray) : Act Unit := do
  flush
  if (← get).broken.isNone then
    if let .error fault := ← Kernel.writeAll 1 bytes then
      modify fun tool => { tool with broken := some fault }

/-! ### Complaints -/

/-- Sets the status. -/
def setStatus (status : Nat) : Act Unit :=
  modify fun tool => { tool with status }

/-- Writes a text to the output for errors. -/
def printError (text : Octets) : Act Unit := do
  let _ ← Kernel.writeAll 2 (Octets.toBytes text)

/-- Writes a message without failing. -/
def warn (message : Octets) : Act Unit := do
  printError ((← get).name ++ ": " ++ message ++ "\n")

/-- Complains and fails in the end. -/
def complain (message : Octets) : Act Unit := do
  warn message
  setStatus (← get).failure

/-- Complains about a fault of a file. -/
def complainOf (path : Octets) (fault : Fault) : Act Unit :=
  complain (Text.shellWordIfNeeded path ++ ": " ++ fault.words)

/-- Complains and breaks off. -/
def fail {α : Type} (message : Octets) : Act α := do
  warn message
  throw (← get).failure

/-- The line that says where help is to be found. -/
def helpLine : Act Octets := do
  let name := (← get).name
  return "Try '" ++ name ++ " --help' for more information.\n"

/-- Complains about how the utility was called, and breaks off. -/
def failUsage {α : Type} (message : Octets) : Act α := do
  warn message
  printError ((← get).usage ++ (← helpLine))
  throw (← get).failure

/-! ### Files -/

/-- The mode of new files, before the mask. -/
def newFileMode : Nat := 0o666

/-- Asks the system for something at a path. -/
def atPath (path : Octets) : String := Octets.toText path

/-- What is known about a node. -/
def factsOf (path : Octets) (through : Bool) : Act (Except Fault Kernel.Facts) :=
  ask (.facts (atPath path) through)

/-- Whether a path leads to a directory. -/
def isDirectory (path : Octets) : Act Bool := do
  return match ← factsOf path true with
    | .ok facts => facts.kind = .directory
    | .error _ => false

/-- A path below another one. -/
def below (directory name : Octets) : Octets :=
  if directory.endsWith "/" then directory ++ name else directory ++ "/" ++ name

/-- A text without the slashes at its end, unless nothing else is in it. -/
def withoutSlashes (path : Octets) : Octets :=
  let kept := path.toList.reverse.dropWhile (· = '/')
  if kept.isEmpty then (if path.isEmpty then "" else "/") else String.ofList kept.reverse

/-- The last name of a path. -/
def lastName (path : Octets) : Octets :=
  let trimmed := withoutSlashes path
  if trimmed = "/" then "/"
  else String.ofList (trimmed.toList.reverse.takeWhile (· ≠ '/')).reverse

/-- What a path says in front of its last name. -/
def directoryName (path : Octets) : Octets :=
  let trimmed := (withoutSlashes path).toList.reverse
  let above := trimmed.dropWhile (· ≠ '/')
  if above.isEmpty then (if path.startsWith "/" then "/" else ".")
  else
    let above := above.dropWhile (· = '/')
    if above.isEmpty then "/" else String.ofList above.reverse

/-- Reads some bytes; none at the end. -/
def readSome (descriptor : Nat) : Act (Except Fault ByteArray) :=
  ask (.read descriptor Kernel.readSize)

/-- Something done with the descriptor of each of several paths, of which a hyphen
stands for the input.  Paths that cannot be opened are complained about. -/
def forPaths (message : Octets → Fault → Octets) (action : Octets → Nat → Act Unit) :
    List Octets → Act Unit
  | [] => pure ()
  | path :: rest => do
    if path = "-" then action path 0
    else
      match ← ask (.open (atPath path) .reading 0) with
      | .error fault => complain (message path fault)
      | .ok descriptor =>
        action path descriptor
        let _ ← ask (.close descriptor)
    forPaths message action rest

/-- All bytes of a path, of which a hyphen stands for the input. -/
def contentOf (path : Octets) : Act (Except Fault ByteArray) := do
  if path = "-" then Kernel.readAll 0
  else
    match ← ask (.open (atPath path) .reading 0) with
    | .error fault => return .error fault
    | .ok descriptor =>
      let bytes ← Kernel.readAll descriptor
      let _ ← ask (.close descriptor)
      return bytes

/-- Reads a line byte by byte, so that what follows it is left for others. -/
def readAnswer : (fuel : Nat) → Act (List UInt8)
  | 0 => return []
  | fuel + 1 => do
    match ← ask (.read 0 1) with
    | .error _ => return []
    | .ok bytes =>
      match bytes.data.toList with
      | [] | [10] => return []
      | bytes => return bytes ++ (← readAnswer fuel)

/-- Asks a question, and tells whether the answer starts like a yes. -/
def confirm (question : Octets) : Act Bool := do
  flush
  printError ((← get).name ++ ": " ++ question ++ "? ")
  let answer ← readAnswer Kernel.ages
  return answer.head? = some 121 || answer.head? = some 89

/-! ### Lines -/

/-- A line, and whether something ends it. -/
structure Line where
  text : List Char
  ended : Bool

/-- The lines of characters behind some that were read already, the last one of
them first; and the characters of the line that is open, in the same order. -/
def cutLines (mark : Char) : (before : List Char) → List Char → (lines : List Line) →
    List Line × List Char
  | before, [], lines => (lines.reverse, before)
  | before, c :: rest, lines =>
    if c = mark then cutLines mark [] rest (⟨before.reverse, true⟩ :: lines)
    else cutLines mark (c :: before) rest lines

/-- Goes through some lines until it is said that this is enough. -/
def stepLines {σ : Type} (step : σ → Line → Act (σ × Bool)) : σ → List Line → Act (σ × Bool)
  | value, [] => return (value, true)
  | value, line :: rest => do
    match ← step value line with
    | (value, true) => stepLines step value rest
    | (value, false) => return (value, false)

/-- Goes through the lines that are read from a descriptor, until it is said that
this is enough. -/
def readLines {σ : Type} (path : Octets) (descriptor : Nat) (mark : Char)
    (step : σ → Line → Act (σ × Bool)) : (fuel : Nat) → (before : List Char) → σ → Act (σ × Bool)
  | 0, _, value => return (value, false)
  | fuel + 1, before, value => do
    match ← readSome descriptor with
    | .error fault =>
      complainOf path fault
      return (value, true)
    | .ok bytes =>
      if bytes.isEmpty then
        if before.isEmpty then return (value, true) else step value ⟨before.reverse, false⟩
      else
        let (lines, before) := cutLines mark before (Octets.charactersOf bytes) []
        match ← stepLines step value lines with
        | (value, true) => readLines path descriptor mark step fuel before value
        | (value, false) => return (value, false)

/-- Goes through the lines of several paths, of which a hyphen stands for the
input. -/
def forLines {σ : Type} (step : σ → Line → Act (σ × Bool)) : σ → List Octets → Act σ
  | value, [] => return value
  | value, path :: rest => do
    if path = "-" then
      match ← readLines path 0 '\n' step Kernel.ages [] value with
      | (value, true) => forLines step value rest
      | (value, false) => return value
    else
      match ← ask (.open (atPath path) .reading 0) with
      | .error fault =>
        complainOf path fault
        forLines step value rest
      | .ok descriptor =>
        let (value, more) ← readLines path descriptor '\n' step Kernel.ages [] value
        let _ ← ask (.close descriptor)
        if more then forLines step value rest else return value

/-- All lines of several paths. -/
def allLines (paths : List Octets) : Act (List Line) := do
  let lines ← forLines (fun lines line => return (line :: lines, true)) [] paths
  return lines.reverse

/-- Parts of a list, each as long as possible. -/
def partsOf {α : Type} (length : Nat) : (fuel : Nat) → List α → List (List α)
  | 0, _ => []
  | _, [] => []
  | fuel + 1, list => list.take length :: partsOf length fuel (list.drop length)

/-- The paths of operands: the input if there are none. -/
def pathsOf (operands : List Octets) : List Octets :=
  if operands.isEmpty then ["-"] else operands

/-! ### Programs -/

/-- Ends a utility: what was printed is written, and it counts as a failure if that
cannot be done. -/
def conclude (status : Nat) : Act Nat := do
  setStatus status
  flush
  match (← get).broken with
  | none => return (← get).status
  | some fault =>
    warn ("write error: " ++ fault.words)
    let tool ← get
    return if tool.status = 0 then tool.failure else tool.status

/-- The program of a utility, which fails with some status. -/
def program (failure : Nat) (action : List Octets → Act Unit) (args : List Octets)
    (environment : Kernel.Environment) : Kernel.Process :=
  let whole : Act Nat := do
    match ← Kernel.attempt (action args.tail) with
    | .ok _ => conclude (← get).status
    | .error status => conclude status
  whole ⟨args.headD "", environment, [], 0, none, 0, failure, ""⟩
    (fun status _ => .ended status) fun status _ => .ended status

end HintFuzz.Utility
