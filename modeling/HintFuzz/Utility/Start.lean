import HintFuzz.Utility.Words

/-!
# Starting programs

Utilities that become other programs or start them: with other variables, for some
time only, or with arguments that are read.  The last ones have to do with signals.
-/

namespace HintFuzz.Utility

open Files (Fault)
open Kernel (ask)

/-! ### Becoming another program -/

/-- Where programs are looked for if no variable says so. -/
def usualPath : Octets := "/bin:/usr/bin"

/-- Becomes the first one of several programs that can be run.  A file that is no
program is run as a script. -/
def becomeFirst (words : List Octets) (environment : Kernel.Environment) :
    (fault : Fault) → List Octets → Act Fault
  | fault, [] => return fault
  | fault, path :: rest => do
    match ← Kernel.become (atPath path) words environment with
    | .notExecutable => Kernel.become "/bin/sh" ("/bin/sh" :: path :: words.drop 1) environment
    | .permissionDenied => becomeFirst words environment .permissionDenied rest
    | .notFound | .notDirectory => becomeFirst words environment fault rest
    | fault => return fault

/-- Becomes the program that the first word names. -/
def becomeProgram (words : List Octets) (environment : Kernel.Environment) : Act Fault :=
  let name := words.headD ""
  let path := ((environment.find? fun entry => entry.1 = "PATH").map Prod.snd).getD usualPath
  if name = "" then return .notFound
  else becomeFirst words environment .notFound (Kernel.candidates path name)

/-- Breaks off because of a program that could not be started. -/
def failStart {α : Type} (fault : Fault) (message : Octets) : Act α := do
  warn (message ++ ": " ++ fault.words)
  throw (if fault = .notFound then 127 else 126)

/-- Becomes another program with the variables of this one, or complains. -/
def turnInto (lead : Octets) (words : List Octets) : Act Unit := do
  flush
  let fault ← becomeProgram words (← get).environment
  failStart fault (lead ++ Text.quotedWord (words.headD ""))

/-! ### Variables -/

/-- The name and the value of a text that sets a variable. -/
def settingOf? (text : Octets) : Option (Octets × Octets) :=
  let name := text.toList.takeWhile (· ≠ '=')
  match text.toList.drop name.length with
  | _ :: value => some (String.ofList name, String.ofList value)
  | [] => none

/-- Variables with one of them set. -/
def withVariable (environment : Kernel.Environment) (setting : Octets × Octets) :
    Kernel.Environment :=
  if environment.any fun entry => entry.1 = setting.1 then
    environment.map fun entry => if entry.1 = setting.1 then setting else entry
  else environment ++ [setting]

/-- The settings at the start of some words, and the other words. -/
def settingsFront : List Octets → List (Octets × Octets) × List Octets
  | word :: rest =>
    match settingOf? word with
    | some setting =>
      let (settings, words) := settingsFront rest
      (setting :: settings, words)
    | none => ([], word :: rest)
  | [] => ([], [])

/-- `env`: runs a program with other variables, or shows them. -/
def withEnvironment (args : List Octets) : Act Unit := do
  let given ← given
    [.flag 'i' "ignore-environment", .flag '0' "null", .valued 'u' "unset",
     .valued 'C' "chdir", .valued 'S' "split-string", .flag 'v' "debug"] args true
  let (empties, operands) := match given.operands with
    | "-" :: rest => (true, rest)
    | operands => (given.has "ignore-environment", operands)
  let splits := (given.values "split-string").flatMap fun text =>
    ((Text.stretches ' ' text.toList).filter fun word => !word.isEmpty).map String.ofList
  let (settings, words) := settingsFront (splits ++ operands)
  let known := (← get).environment
  let environment := if empties then [] else known
  let environment := (given.values "unset").foldl
    (fun environment name => environment.filter fun entry => entry.1 ≠ name) environment
  let environment := settings.foldl withVariable environment
  if let some directory := given.value? "chdir" then
    if words.isEmpty then failUsage "must specify command with --chdir (-C)"
    else if let .error fault := ← ask (.enter (atPath directory)) then
      fail ("cannot change directory to " ++ Text.quotedWord directory ++ ": " ++ fault.words)
  if words.isEmpty then
    for (name, value) in environment do
      print (name ++ "=" ++ value ++ if given.has "null" then "\x00" else "\n")
  else
    let fault ← becomeProgram words environment
    failStart fault (Text.quotedWord (words.headD ""))

/-- `printenv`: shows variables. -/
def showEnvironment (args : List Octets) : Act Unit := do
  let given ← given [.flag '0' "null"] args true
  let mark := if given.has "null" then "\x00" else "\n"
  let environment := (← get).environment
  if given.operands.isEmpty then
    for (name, value) in environment do print (name ++ "=" ++ value ++ mark)
  else
    for name in given.operands do
      match environment.find? fun entry => entry.1 = name with
      | some (_, value) => print (value ++ mark)
      | none => setStatus 1

/-! ### Programs in other circumstances -/

/-- `nohup`: runs a program that does not notice when the terminal is gone. -/
def withoutHangup (args : List Octets) : Act Unit := do
  let given ← given [] args true
  if given.operands.isEmpty then failMissing
  else
    for signal in Signal.all.filter fun signal => signal.number = 1 do
      let _ ← ask (.dispose signal .ignored)
    turnInto "failed to run command " given.operands

/-- An argument that writes a niceness without a letter, with the letter. -/
def nicenessArguments : List Octets → List Octets
  | arg :: rest =>
    match arg.toList with
    | '-' :: c :: more =>
      if c.isDigit then "-n" :: String.ofList (c :: more) :: rest else arg :: rest
    | _ => arg :: rest
  | [] => []

/-- `nice`: runs a program that leaves the time to others. -/
def withNiceness (args : List Octets) : Act Unit := do
  let given ← given [.valued 'n' "adjustment"] (nicenessArguments args) true
  if let some text := given.value? "adjustment" then
    if (Format.decimal? text).isNone then fail ("invalid adjustment " ++ Text.quotedWord text)
  if given.operands.isEmpty then
    if (given.value? "adjustment").isSome then
      failUsage "a command must be given with an adjustment"
    else printLine "0"
  else turnInto "" given.operands

/-- `setsid` and `stdbuf`: run a program as it is. -/
def runPlainly (specs : List OptionSpec) (args : List Octets) : Act Unit := do
  let given ← given specs args true
  if given.operands.isEmpty then failMissing
  else turnInto "failed to run command " given.operands

/-! ### Children -/

/-- A process that does something as a utility does. -/
def Tool.child (tool : Tool) (action : Act Nat) : Kernel.Process :=
  action tool (fun status _ => .ended status) fun status _ => .ended status

/-- Starts a program in a process of its own, after some preparation, and gives the
number of the process. -/
def startChild (prepare : Act Unit) (words : List Octets) (lead : Octets → Octets) : Act Nat := do
  flush
  let tool ← get
  Kernel.start (tool.child do
    prepare
    let fault ← becomeProgram words tool.environment
    failStart fault (lead (words.headD "")))

/-- Waits for a child up to a time, if there is one, and looks for it again and again. -/
def awaitUpTo (child : Nat) (deadline : Option Nat) : (fuel : Nat) → Act (Option Kernel.Ending)
  | 0 => return none
  | fuel + 1 => do
    match ← ask (.wait (some child) deadline.isNone) with
    | .ended _ ending => return some ending
    | .childless => return some (.exited 0)
    | .interrupted => awaitUpTo child deadline fuel
    | .running =>
      let now ← ask .clock
      match deadline with
      | none => awaitUpTo child deadline fuel
      | some time =>
        if time ≤ now then return none
        else
          let next := now + pollLength
          let _ ← ask (.sleep (if next < time then next else time))
          awaitUpTo child deadline fuel
where
  /-- The time between two looks, in nanoseconds. -/
  pollLength : Nat := 1000000

/-- Ends this process by a signal. -/
def endBy (signal : Signal) : Act Unit := do
  let _ ← ask (.dispose signal .usual)
  let _ ← ask (.signal (← ask .self) signal)

/-- The signal that an option names. -/
def signalOption (text : Octets) : Act Signal := do
  let upper := String.ofList (text.toList.map Char.toUpper)
  let name := if upper.startsWith "SIG" then String.ofList (upper.toList.drop 3) else upper
  match Signal.ofText? name with
  | some signal => return signal
  | none => failUsage (Text.quotedWord text ++ ": invalid signal")

/-- The time that an option or an operand writes. -/
def timeOption (text : Octets) : Act Nat := do
  match intervalOf? text with
  | some time => return time
  | none => failUsage ("invalid time interval " ++ Text.quotedWord text)

/-- The signal by which processes are asked to end. -/
def terminate : Signal := ⟨15, "TERM", .ends, "Terminated"⟩

/-- The signal by which processes are ended for certain. -/
def killing : Signal := ⟨9, "KILL", .ends, "Killed"⟩

/-- `timeout`: ends a program that takes too long. -/
def limitTime (args : List Octets) : Act Unit := do
  let given ← given
    [.wordFlag "foreground", .valued 'k' "kill-after", .valued 's' "signal",
     .wordFlag "preserve-status", .flag 'v' "verbose"] args true
  match given.operands with
  | [] | [_] =>
    printError (← helpLine)
    throw (← get).failure
  | time :: words =>
    let later ← (given.value? "kill-after").mapM timeOption
    let signal ← match given.value? "signal" with
      | some text => signalOption text
      | none => pure terminate
    let length ← timeOption time
    let child ← startChild (pure ()) words fun name =>
      "failed to run command " ++ Text.quotedWord name
    let start ← ask .clock
    let deadline := if length = 0 then none else some (start + length)
    match ← awaitUpTo child deadline Kernel.ages with
    | some (.exited status) => setStatus status
    | some (.killed signal) =>
      endBy signal
      setStatus (128 + signal.number)
    | none =>
      let _ ← ask (.signal child signal)
      let now ← ask .clock
      let deadline := later.map fun length => now + length
      let (ending, last) ← match ← awaitUpTo child deadline Kernel.ages with
        | some ending => pure (ending, signal)
        | none =>
          let _ ← ask (.signal child killing)
          let ending ← awaitUpTo child none Kernel.ages
          pure (ending.getD (.exited 0), killing)
      if last = killing then endBy killing
      setStatus (if given.has "preserve-status" then
          match ending with
          | .exited status => status
          | .killed signal => 128 + signal.number
        else 124)

/-! ### Arguments that are read -/

/-- How arguments are separated. -/
structure ItemManner where
  /-- The character between arguments, in which nothing is quoted then. -/
  mark : Option Char
  /-- Every line is one argument. -/
  wholeLines : Bool

/-- What is known while arguments are read: those of the line, the last one first, the
open one in the same order, and what quotes it. -/
structure ItemState where
  lines : List (List Octets)
  line : List Octets
  word : Option (List Char)
  quote : Option Char
  /-- A backslash stands in front. -/
  escaped : Bool
  /-- A blank stands in front, so that the line goes on behind its end. -/
  blank : Bool

namespace ItemState

/-- The state at the end of an argument. -/
def endWord (state : ItemState) : ItemState :=
  match state.word with
  | some word => { state with word := none, line := String.ofList word.reverse :: state.line }
  | none => state

/-- The state at the end of a line. -/
def endLine (state : ItemState) : ItemState :=
  let state := state.endWord
  if state.line.isEmpty then state
  else { state with line := [], lines := state.line.reverse :: state.lines }

/-- The state behind a character of an argument. -/
def add (state : ItemState) (c : Char) : ItemState :=
  { state with word := some (c :: state.word.getD []), escaped := false, blank := false }

/-- The state behind one more character. -/
def step (wholeLines : Bool) (state : ItemState) (c : Char) : ItemState :=
  if state.escaped then state.add c
  else
    match state.quote with
    | some quote =>
      if c = quote then { state with quote := none, blank := false } else state.add c
    | none =>
      if c = '\\' then { state with escaped := true, word := some (state.word.getD []) }
      else if c = '\'' ∨ c = '"' then
        { state with quote := some c, word := some (state.word.getD []) }
      else if c = '\n' then
        if state.blank ∧ !wholeLines then state.endWord else state.endLine
      else if Format.isBlank c then
        if wholeLines then (if state.word.isNone then state else state.add c)
        else { state.endWord with blank := true }
      else state.add c

end ItemState

/-- The arguments of a text by their lines, or the quotation mark that is missing. -/
def itemsOf (manner : ItemManner) (text : List Char) : Except Char (List (List Octets)) :=
  match manner.mark with
  | some mark =>
    let parts := Text.stretches mark text
    let parts := if parts.getLast?.any List.isEmpty then parts.dropLast else parts
    .ok (parts.map fun part => [String.ofList part])
  | none =>
    let state := text.foldl (ItemState.step manner.wholeLines) ⟨[], [], none, none, false, false⟩
    match state.quote with
    | some quote => .error quote
    | none => .ok state.endLine.lines.reverse

/-- A text in which another one is replaced. -/
def replacedText (mark replacement : List Char) : (fuel : Nat) → List Char → List Char
  | 0, text => text
  | _, [] => []
  | fuel + 1, c :: rest =>
    if !mark.isEmpty ∧ mark.isPrefixOf (c :: rest) then
      replacement ++ replacedText mark replacement fuel ((c :: rest).drop mark.length)
    else c :: replacedText mark replacement fuel rest

/-- Runs a command with arguments that were read, and tells whether the next one is to
be run. -/
def runWith (verbose : Bool) (words : List Octets) : Act Unit := do
  if verbose then printError (String.intercalate " " words ++ "\n")
  let name := words.headD ""
  let child ← startChild (do
    let _ ← ask (.close 0)
    let _ ← ask (.open "/dev/null" .reading 0)) words id
  match ← awaitUpTo child none Kernel.ages with
  | some (.exited status) =>
    if status = 255 then
      warn (name ++ ": exited with status 255; aborting")
      throw 124
    else if status = 126 ∨ status = 127 then throw status
    else unless status = 0 do
      setStatus 123
  | some (.killed signal) =>
    warn (name ++ ": terminated by signal " ++ toString signal.number)
    throw 125
  | none => pure ()

/-- A number that an option of `xargs` writes. -/
def countOption (letter : String) (text : Octets) : Act Nat := do
  match Format.decimal? text with
  | none =>
    failUsage ("invalid number \"" ++ text ++ "\" for -" ++ letter ++ " option")
  | some number =>
    if number < 1 then
      failUsage ("value " ++ text ++ " for -" ++ letter ++ " option should be >= 1")
    else return number.toNat

/-- `xargs`: runs a command with arguments that are read. -/
def runForItems (args : List Octets) : Act Unit := do
  let given ← given
    [.flag '0' "null", .valued 'a' "arg-file", .valued 'd' "delimiter", .valued 'n' "max-args",
     .letterValued 'I', .valued 'L' "max-lines", .valued 'P' "max-procs",
     .flag 'r' "no-run-if-empty", .flag 't' "verbose", .valued 's' "max-chars",
     .letterFlag 'x', .letterFlag 'p'] args true
  let mark : Option Char := match given.last? ["null", "delimiter"] with
    | some ("null", _) => some '\x00'
    | some (_, text) =>
      match text.toList with
      | '\\' :: rest => some (Format.escape true rest).1
      | c :: _ => some c
      | [] => none
    | none => none
  let content ← contentOf ((given.value? "arg-file").getD "-")
  let bytes ← match content with
    | .ok bytes => pure bytes
    | .error fault =>
      fail ("Cannot open input file " ++ Text.quotedWord ((given.value? "arg-file").getD "-") ++
        ": " ++ fault.words)
  let replacement := given.value? "I"
  let lines ← match itemsOf ⟨mark, replacement.isSome⟩ (Octets.charactersOf bytes) with
    | .ok lines => pure lines
    | .error quote =>
      fail ("unmatched " ++ (if quote = '"' then "double" else "single") ++
        " quote; by default quotes are special to xargs unless you use the -0 option")
  let command := if given.operands.isEmpty then ["echo"] else given.operands
  let verbose := given.has "verbose"
  match replacement with
  | some mark =>
    for item in lines.flatten do
      runWith verbose (command.map fun word =>
        String.ofList (replacedText mark.toList item.toList (word.length + 1) word.toList))
  | none =>
    let items := lines.flatten
    let groups ← match given.last? ["max-args", "max-lines"] with
      | some ("max-args", text) =>
        pure (partsOf (← countOption "n" text) (items.length + 1) items)
      | some (_, text) =>
        pure ((partsOf (← countOption "L" text) (lines.length + 1) lines).map List.flatten)
      | none => pure (if items.isEmpty then [] else [items])
    if groups.isEmpty then
      unless given.has "no-run-if-empty" do
        runWith verbose command
    else
      for group in groups do
        runWith verbose (command ++ group)

/-! ### Signals -/

/-- `kill`: sends signals to processes. -/
def sendSignals (args : List Octets) : Act Unit := do
  let (signal, targets) ← match args with
    | first :: rest =>
      match first.toList, rest with
      | ['-', 's'], text :: rest => pure (← signalOption text, rest)
      | ['-', 'l'], _ =>
        for signal in Signal.all.drop 1 do printLine signal.name
        throw 0
      | '-' :: c :: name, rest => pure (← signalOption (String.ofList (c :: name)), rest)
      | _, rest => pure (terminate, first :: rest)
    | [] => pure (terminate, [])
  if targets.isEmpty then
    printError "Usage:\n kill [options] <pid> [...]\n"
    throw 1
  for target in targets do
    match Format.decimal? target with
    | none => complain ("failed to parse argument: " ++ Text.quotedWord target)
    | some id =>
      if let .error fault := ← ask (.signal id signal) then
        complain ("(" ++ target ++ "): " ++ fault.words)

end HintFuzz.Utility
