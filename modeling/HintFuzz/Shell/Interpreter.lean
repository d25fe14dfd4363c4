import HintFuzz.Shell.Arithmetic
import HintFuzz.Shell.Builtin
import HintFuzz.Shell.Home

/-!
# Running shell scripts

Words are expanded, split into fields and run as commands.  The fuel of a run is
spent on steps into scripts and on rounds of loops; there is more of it than any
script needs before it is stopped.
-/

namespace HintFuzz.Shell

open Kernel (ask attempt)

/-- How a command is run. -/
structure Manner where
  /-- The shell is over when the command is through. -/
  last : Bool
  /-- It is seen to whether the command fails. -/
  tested : Bool

namespace Manner

/-- A command with others behind it. -/
def usual : Manner := ⟨false, false⟩

/-- A condition. -/
def condition : Manner := ⟨false, true⟩

end Manner

/-! ### Courses of loops -/

/-- What a loop does after a round. -/
inductive Course
  | onward
  /-- The rest of the round is left out. -/
  | again
  | over
  /-- A function gives its status back in the middle of the loop. -/
  | given

/-- Sees to the flow of a script after a part of a loop. -/
def courseOfLoop : Act Course := do
  let setFlow (flow : Flow) : Act Unit := modify fun state => { state with flow }
  match (← get).flow with
  | .normal => return .onward
  | .back given => return if given then .given else .over
  | .leave loops =>
    setFlow (if loops ≤ 1 then .normal else .leave (loops - 1))
    return .over
  | .next loops =>
    if loops ≤ 1 then
      setFlow .normal
      return .again
    else
      setFlow (.next (loops - 1))
      return .over

/-- Runs a loop. -/
def inLoop (action : Act Nat) : Act Nat := do
  modify fun state => { state with loops := state.loops + 1 }
  let status ← action
  modify fun state => { state with loops := state.loops - 1 }
  return status

/-- Whether nothing changes the flow of the script. -/
def flowsOn : Act Bool := do
  return (← get).flow = .normal

/-- Notes the line that is running. -/
def setLine (line : Nat) : Act Unit :=
  modify fun state => { state with line }

/-! ### Programs -/

/-- Becomes the program at a path.  A file that is no program is run as a script. -/
def becomeAt (path : Octets) (args : List Octets) : Act Files.Fault := do
  let state ← get
  match ← Kernel.become (Octets.toText path) args state.environment with
  | .notExecutable =>
    Kernel.become "/bin/sh" ("/bin/sh" :: path :: args.drop 1) state.environment
  | fault => return fault

/-- Becomes the first one of several programs that can be run. -/
def becomeAny (args : List Octets) : (fault : Files.Fault) → List Octets → Act Files.Fault
  | fault, [] => return fault
  | fault, path :: rest => do
    match ← becomeAt path args with
    | .notFound | .notDirectory => becomeAny args fault rest
    | fault => becomeAny args fault rest

/-- Becomes a program, or complains that this cannot be done. -/
def becomeProgram (path : Octets) (args : List Octets) : Act Unit := do
  let name := args.headD ""
  let fault ← becomeAny args .notFound (Kernel.candidates path name)
  let missing := [Files.Fault.tooManyLinks, .nameTooLong, .notFound, .notDirectory].contains fault
  complain (name ++ ": " ++ openingFault "not found" fault)
  setStatus (if missing then 127 else 126)
  throw .over

/-- Lets the process that is running read nothing. -/
def readNothing : Act Unit := do
  let _ ← ask (.close 0)
  let _ ← ask (.open "/dev/null" .reading 0)

/-- Keeps signals from the keyboard away from a command in the background. -/
def ignoreKeyboard : Act Unit := do
  for signal in Signal.all.filter fun signal => signal.number = 2 || signal.number = 3 do
    let _ ← ask (.dispose signal .ignored)

/-- Forgets what is to be run when signals are caught. -/
def dropTraps : Act Unit := do
  let state ← get
  for (signal, action) in state.traps do
    if signal.number ≠ 0 ∧ action ≠ "" then
      let _ ← ask (.dispose signal .usual)
  set { state with
    traps := state.traps.filter fun entry => entry.2 = ""
    caught := []
    jobs := []
    output := [] }

/-- Whether something is to be run when signals are caught, or at the end. -/
def State.hasTraps (state : State) : Bool :=
  state.traps.any fun entry => entry.2 ≠ ""

/-- Lets a descriptor of the process lead where another one does, in its place. -/
def moveDescriptor (source target : Nat) : Act Unit := do
  unless source = target do
    let _ ← ask (.duplicate source target)
    let _ ← ask (.close source)

/-- Traces what is run. -/
def trace (texts : List Octets) : Act Unit := do
  let state ← get
  if state.has 'x' then
    let lead := (state.value? "PS4").getD ""
    let _ ← writeText state.traceDescriptor (lead ++ String.intercalate " " texts ++ "\n")

/-! ### Commands -/

/-- What runs a command. -/
inductive Runner
  | function (function : Function)
  | builtin (builtin : Builtin)
  | program

/-- What runs a command of a name. -/
def State.runner (state : State) (functions : Bool) (name : Octets) : Runner :=
  match if functions then state.functions.find? fun entry => entry.name = name else none with
  | some function => .function function
  | none =>
    match builtin? name with
    | some builtin => .builtin builtin
    | none => .program

/-- A command that is to be run. -/
structure Call where
  runner : Runner
  /-- Its name and its arguments. -/
  fields : List Octets
  /-- All fields, also those in front of its name. -/
  shown : List Octets
  /-- Whether it is a special command of the shell; none if it is no command of the
  shell at all. -/
  special : Option Bool
  /-- Where a program is looked for, if not where the script says. -/
  path : Option Octets

/-- Whether the variables in front of a command are set for it alone. -/
def Call.isLocal (call : Call) : Bool :=
  !call.fields.isEmpty && call.special ≠ some true

/-- Whether a command puts another program in the place of the shell. -/
def Call.isExec (call : Call) : Bool :=
  match call.runner with
  | .builtin ⟨_, _, .exec⟩ => true
  | _ => false

/-- Runs a program. -/
def runProgram (manner : Manner) (path? : Option Octets) (fields : List Octets) : Act Nat := do
  let state ← get
  let name := fields.headD ""
  let path := path?.getD state.searchPath
  let found : Except Files.Fault Octets ←
    if name.toList.contains '/' then pure (.ok name) else findProgram path name
  match found with
  | .error fault =>
    complain (name ++ ": " ++ openingFault "not found" fault)
    setStatus 127
    return 127
  | .ok place =>
    keepFound name place
    if manner.last ∧ !state.hasTraps then
      becomeProgram path fields
      return 0
    else
      let state ← get
      let run : Act Unit := becomeProgram path fields
      let id ← Kernel.start
        (run state (fun _ state => .ended state.status) fun _ state => .ended state.status)
      await [id]

/-- How many functions may be running one inside the other. -/
def mostFunctions : Nat := 1000

/-- The first one of several paths that leads to a file. -/
def findReadable (name : Octets) : List Octets → Act Octets
  | [] => fail (name ++ ": not found")
  | path :: rest => do
    match ← ask (.facts (Octets.toText path) true) with
    | .ok facts => if facts.kind = .file then return path else findReadable name rest
    | .error _ => findReadable name rest

mutual

/-- Expands one piece of a word. -/
def expandPiece : (fuel : Nat) → Piece → Act (List Mark)
  | 0, _ => throw .over
  | fuel + 1, piece => do
    match piece with
    | .plain text => return text.toList.map (.held · false)
    | .quoted text => return .present :: text.toList.map (.held · true)
    | .parameter name form orEmpty quoted operand =>
      let state ← get
      let areAll := name = "@" || name = "*"
      let value := if areAll then some ((state.parameter? name).getD "") else state.parameter? name
      let missing := value.isNone || (orEmpty && value = some "")
      let text := value.getD ""
      let shown :=
        if name = "@" ∨ (name = "*" ∧ !quoted) then argumentMarks quoted state.args
        else marksOf quoted text
      let needed : Act Unit := do
        if value.isNone && state.has 'u' then fail (name ++ ": parameter not set")
      let operandMarks : Act (List Mark) := do
        expandPieces fuel (if quoted then operand else withHomes state false true operand)
      match form with
      | .plain =>
        needed
        return shown
      | .length =>
        needed
        return marksOf quoted (toString text.length)
      | .unknown => fail "Bad substitution"
      | .orElse =>
        if missing then return (← operandMarks).map (Mark.splittable quoted) else return shown
      | .replaced =>
        if missing then return marksOf quoted ""
        else return (← operandMarks).map (Mark.splittable quoted)
      | .assign =>
        if missing then
          let text := textOf (← operandMarks)
          checkName name
          setVariable name text
          return marksOf quoted text
        else return shown
      | .required =>
        if missing then
          let usual := if orEmpty then "parameter not set or null" else "parameter not set"
          let words ← if operand.isEmpty then pure usual else textOf <$> operandMarks
          fail (name ++ ": " ++ words)
        else return shown
      | .dropFront | .dropLongestFront =>
        needed
        let globs := (oneField (← operandMarks)).pattern
        let left := Glob.dropFront (form = .dropLongestFront) globs text.toList
        return keepMarks (text.length - left.length) left.length shown
      | .dropEnd | .dropLongestEnd =>
        needed
        let globs := (oneField (← operandMarks)).pattern
        let left := Glob.dropEnd (form = .dropLongestEnd) globs text.toList
        return keepMarks 0 left.length shown
    | .output script quoted =>
      return marksOf quoted (outputText (← outputOf fuel script))
    | .arithmetic expression quoted =>
      let text := textOf (← expandPieces fuel expression)
      match Arithmetic.eval (← get).value? text with
      | .ok (value, assigned) =>
        for (name, number) in assigned do
          setVariable name (toString number.toInt)
        return marksOf quoted (toString value.toInt)
      | .error fault => fail (fault.message text)
termination_by structural fuel => fuel

/-- Expands the pieces of a word, from left to right. -/
def expandPieces : (fuel : Nat) → List Piece → Act (List Mark)
  | 0, _ => throw .over
  | _, [] => return []
  | fuel + 1, piece :: rest => do
    let front ← expandPiece fuel piece
    return front ++ (← expandPieces fuel rest)
termination_by structural fuel => fuel

/-- Expands a word into fields. -/
def expandWord : (fuel : Nat) → Word → Act (List Octets)
  | 0, _ => throw .over
  | fuel + 1, word => do
    let marks ← expandPieces fuel (withHomes (← get) false true word)
    let fields := fieldsOf (← get).separators marks
    fields.flatMapM Field.texts
termination_by structural fuel => fuel

/-- Expands words into fields. -/
def expandWords : (fuel : Nat) → List Word → Act (List Octets)
  | 0, _ => throw .over
  | _, [] => return []
  | fuel + 1, word :: rest => do
    let front ← expandWord fuel word
    return front ++ (← expandWords fuel rest)
termination_by structural fuel => fuel

/-- Expands a word into a text. -/
def expandText : (fuel : Nat) → (colons : Bool) → Word → Act Octets
  | 0, _, _ => throw .over
  | fuel + 1, colons, word => do
    return textOf (← expandPieces fuel (withHomes (← get) colons true word))
termination_by structural fuel => fuel

/-- Expands words into fields, except those that are assignments. -/
def expandOperands : (fuel : Nat) → (assigns : Bool) → List Word → Act (List Octets)
  | 0, _, _ => throw .over
  | _, _, [] => return []
  | fuel + 1, assigns, word :: rest => do
    let fields ← match if assigns then Reading.assignment? word else none with
      | some (name, value) =>
        let text ← expandText fuel true value
        pure [name ++ "=" ++ text]
      | none => expandWord fuel word
    return fields ++ (← expandOperands fuel assigns rest)
termination_by structural fuel => fuel

/-- Expands words until there are more than some fields. -/
def expandUntil : (fuel : Nat) → (count : Nat) → List Octets → List Word →
    Act (List Octets × List Word)
  | 0, _, _, _ => throw .over
  | fuel + 1, count, fields, words => do
    if count < fields.length then return (fields, words)
    else
      match words with
      | [] => return (fields, [])
      | word :: rest =>
        let more ← expandWord fuel word
        expandUntil fuel count (fields ++ more) rest
termination_by structural fuel => fuel

/-- The fields behind `command` and its options, if they are a command that is to
be run, and whether programs are looked for in the usual places. -/
def behindCommand : (fuel : Nat) → (index : Nat) → (usual : Bool) → List Octets → List Word →
    Act (Option (Nat × Bool) × List Octets × List Word)
  | 0, _, _, _, _ => throw .over
  | fuel + 1, index, usual, fields, words => do
    let (fields, words) ← expandUntil fuel index fields words
    match (fields[index]?).map String.toList with
    | none => return (none, fields, words)
    | some ['-', '-'] =>
      let (fields, words) ← expandUntil fuel (index + 1) fields words
      if index + 1 < fields.length then return (some (index + 1, usual), fields, words)
      else return (none, fields, words)
    | some ('-' :: c :: rest) =>
      if (c :: rest).all (· = 'p') then behindCommand fuel (index + 1) true fields words
      else return (none, fields, words)
    | some _ => return (some (index, usual), fields, words)
termination_by structural fuel => fuel

/-- Finds out what runs a command. -/
def callOf : (fuel : Nat) → (functions : Bool) → (special : Option Bool) → (path : Option Octets) →
    (front : List Octets) → List Octets → List Word → Act Call
  | 0, _, _, _, _, _, _ => throw .over
  | fuel + 1, functions, special, path, front, fields, words => do
    let name := fields.headD ""
    let runner := (← get).runner functions name
    match runner with
    | .builtin builtin =>
      let special := special.getD builtin.special
      let finish (fields : List Octets) (words : List Word) : Act Call := do
        let fields := fields ++ (← expandOperands fuel builtin.assigns words)
        return ⟨runner, fields, front ++ fields, some special, path⟩
      match builtin.action with
      | .command =>
        match ← behindCommand fuel 1 false fields words with
        | (some (index, usual), fields, words) =>
          callOf fuel false (some special) (if usual then some standardPath else path)
            (front ++ fields.take index) (fields.drop index) words
        | (none, fields, words) => finish fields words
      | _ => finish fields words
    | _ =>
      let fields := fields ++ (← expandWords fuel words)
      return ⟨runner, fields, front ++ fields, special, path⟩
termination_by structural fuel => fuel

/-- Expands redirections. -/
def expandRedirects : (fuel : Nat) → List Redirect → Act (List Opening)
  | 0, _ => throw .over
  | _, [] => return []
  | fuel + 1, redirect :: rest => do
    let opening : Opening ← match redirect with
      | .file descriptor mode target =>
        pure (.file descriptor mode (← expandText fuel false target))
      | .duplicate descriptor target =>
        match ← expandWord fuel target with
        | [] => fail "Syntax error: Bad fd number"
        | text :: _ =>
          match text.toList with
          | ['-'] => pure (.duplicate descriptor none)
          | [c] =>
            if c.isDigit then pure (.duplicate descriptor (some (c.toNat - 48)))
            else fail "Syntax error: Bad fd number"
          | _ => fail "Syntax error: Bad fd number"
      | .document descriptor number =>
        match (← get).documents[number]? with
        | some (.plain text) => pure (.document descriptor text)
        | some (.expanded word) =>
          pure (.document descriptor (textOf (← expandPieces fuel word)))
        | none => pure (.document descriptor "")
    return opening :: (← expandRedirects fuel rest)
termination_by structural fuel => fuel

/-- The bytes that a script writes to its output. -/
def outputOf : (fuel : Nat) → Script → Act ByteArray
  | 0, _ => throw .over
  | fuel + 1, script => do
    match script with
    | .nothing => return .empty
    | script =>
      let (reader, writer) ← ask .pipe
      let id ← fork fuel do
        let _ ← ask (.close reader)
        moveDescriptor writer 1
        let _ ← evaluate fuel ⟨true, false⟩ script
      let _ ← ask (.close writer)
      let bytes := (← Kernel.readAll reader).toOption.getD .empty
      let _ ← ask (.close reader)
      let status ← await [id]
      modify fun state => { state with substituted := status }
      return bytes
termination_by structural fuel => fuel

/-- Starts a copy of the shell that does something, and gives the number of its
process. -/
def fork : (fuel : Nat) → Act Unit → Act Nat
  | 0, _ => throw .over
  | fuel + 1, body => do
    let child : Act Nat := finish fuel do
      dropTraps
      body
    let state ← get
    Kernel.start (child state (fun _ state => .ended state.status) fun status _ => .ended status)
termination_by structural fuel => fuel

/-- Does something and brings the shell to its end, and gives its status. -/
def finish : (fuel : Nat) → Act Unit → Act Nat
  | 0, _ => throw .over
  | fuel + 1, body => do
    let settle : Act Unit := do
      modify fun state => { state with leaving := none, flow := .normal, loops := 0 }
      closeRedirections 0
    if let .error .left := ← attempt body then
      let state ← get
      setStatus (state.leaving.getD state.status)
    settle
    let state ← get
    let (farewells, others) := state.traps.partition fun entry => entry.1.number = 0
    match farewells with
    | (_, action) :: _ =>
      set { state with traps := others, leaving := some state.status }
      let outcome ← attempt (runText fuel Manner.usual action.toList)
      match outcome with
      | .error .failed | .error .over => pure ()
      | .error .left | .ok _ =>
        let after ← get
        setStatus (after.leaving.getD state.status)
      settle
    | [] => pure ()
    let _ ← flush
    return (← get).status
termination_by structural fuel => fuel

/-- Starts the commands of a pipeline, each of which reads what the one before it
writes, and gives the numbers of their processes. -/
def startPipeline : (fuel : Nat) → Manner → (background : Bool) → (previous : Option Nat) →
    List Script → Act (List Nat)
  | 0, _, _, _, _ => throw .over
  | _, _, _, _, [] => return []
  | fuel + 1, manner, background, previous, command :: rest => do
    let pipe ← if rest.isEmpty then pure none else some <$> ask .pipe
    let id ← fork fuel do
      if background then
        ignoreKeyboard
        if previous.isNone then readNothing
      if let some (reader, _) := pipe then
        let _ ← ask (.close reader)
      if let some reader := previous then moveDescriptor reader 0
      if let some (_, writer) := pipe then moveDescriptor writer 1
      let _ ← evaluate fuel ⟨true, manner.tested⟩ command
    if let some reader := previous then
      let _ ← ask (.close reader)
    if let some (_, writer) := pipe then
      let _ ← ask (.close writer)
    return id :: (← startPipeline fuel manner background (pipe.map Prod.fst) rest)
termination_by structural fuel => fuel

/-- Runs what is to be run for signals that were caught. -/
def runTraps : (fuel : Nat) → Act Unit
  | 0 => throw .over
  | fuel + 1 => do
    if (← get).hasTraps then
      takeSignals
      let state ← get
      if !state.caught.isEmpty ∧ state.flow = .normal then
        let status := state.leaving.getD state.status
        set { state with leaving := some status }
        runCaught fuel status (state.caught.mergeSort fun a b => a.number ≤ b.number)
        modify fun after => { after with leaving := state.leaving }
termination_by structural fuel => fuel

/-- Runs what is to be run for some signals. -/
def runCaught : (fuel : Nat) → (status : Nat) → List Signal → Act Unit
  | 0, _, _ => throw .over
  | _, _, [] => pure ()
  | fuel + 1, status, signal :: rest => do
    let state ← get
    if state.flow = .normal then
      set { state with caught := state.caught.filter fun other => other ≠ signal }
      match state.traps.find? fun entry => entry.1 = signal with
      | some (_, action) =>
        let _ ← runText fuel Manner.usual action.toList
        unless (← get).flow = .back true do setStatus status
      | none => pure ()
      runCaught fuel status rest
termination_by structural fuel => fuel

/-- Sets the variables in front of a command. -/
def assignAll : (fuel : Nat) → (isLocal exported : Bool) → List (Octets × Word) →
    Act (List Octets)
  | 0, _, _, _ => throw .over
  | _, _, _, [] => return []
  | fuel + 1, isLocal, exported, (name, word) :: rest => do
    let text ← expandText fuel true word
    if isLocal then shadow name
    changeVariable name (some text) (isLocal || exported)
    return (name ++ "=" ++ text) :: (← assignAll fuel isLocal exported rest)
termination_by structural fuel => fuel

/-- Runs a command of the shell itself. -/
def runBuiltin : (fuel : Nat) → Manner → Builtin → List Octets → Act Nat
  | 0, _, _, _ => throw .over
  | fuel + 1, manner, builtin, fields => do
    let name := fields.headD ""
    let args := fields.tail
    let before := (← get).command
    modify fun state => { state with command := some name }
    let action : Act Nat := match builtin.action with
      | .plain => runPlain name args
      | .eval =>
        if args.isEmpty then return 0
        else runText fuel ⟨false, manner.tested⟩ (String.intercalate " " args).toList
      | .source => runFile fuel args
      | .exec => do
        let (_, operands) ← optionsOf "" "" args
        if !operands.isEmpty then becomeProgram (← get).searchPath operands
        return 0
      | .command => do
        let (options, operands) ← optionsOf "pvV" "" args
        let letters := options.map Prod.fst
        let verbs := letters.filter (· ≠ 'p')
        match operands, verbs.getLast? with
        | name :: _, some verb =>
          describe (verb = 'V') (if letters.contains 'p' then some standardPath else none) name
        | _, _ => return 0
    match ← attempt action with
    | .ok status =>
      let written ← flush
      if !written then complain (name ++ ": I/O error")
      let status := if written then status else status ||| 1
      modify fun state => { state with command := before }
      setStatus status
      return status
    | .error departure =>
      modify fun state => { state with command := before }
      throw departure
termination_by structural fuel => fuel

/-- Runs the body of a function with arguments. -/
def runFunction : (fuel : Nat) → Manner → Function → List Octets → Act Nat
  | 0, _, _, _ => throw .over
  | fuel + 1, manner, function, args => do
    let before ← get
    if mostFunctions ≤ before.depth then
      fail ("Maximum function recursion depth (" ++ toString mostFunctions ++ ") reached")
    else
      set { before with
        args, loops := 0, depth := before.depth + 1, optionIndex := 1, optionOffset := none }
      let outcome ← attempt (evaluate fuel ⟨false, manner.tested⟩ function.body)
      modify fun state =>
        { state with
          args := before.args
          loops := before.loops
          depth := before.depth
          optionIndex := before.optionIndex
          optionOffset := before.optionOffset }
      match outcome with
      | .ok _ =>
        modify fun state =>
          { state with
            flow := match state.flow with
              | .back _ => .normal
              | flow => flow }
        return (← get).status
      | .error departure => throw departure
termination_by structural fuel => fuel

/-- Runs a simple command. -/
def runSimple : (fuel : Nat) → Manner → List (Octets × Word) → List Word → List Redirect → Act Nat
  | 0, _, _, _, _ => throw .over
  | fuel + 1, manner, assignments, words, redirects => do
    ask .moment
    modify fun state => { state with substituted := 0 }
    let (fields, words) ← expandUntil fuel 0 [] words
    let call ← if fields.isEmpty then pure ⟨.program, [], [], none, none⟩
      else callOf fuel true none none [] fields words
    let frames := (← get).shadowed.length
    let redirections := (← get).redirected.length
    if call.isLocal then openFrame
    let openings ← expandRedirects fuel redirects
    openRedirections
    let close : Act Unit := do
      if call.isExec then keepRedirections
      closeRedirections redirections
      closeFrames frames
    if !(← redirectAll true openings) then
      setStatus 2
      if call.special = some true then throw .failed
      else
        closeRedirections redirections
        closeFrames frames
        return 2
    else
      let exported := call.isExec && 1 < call.fields.length
      let assigned ← assignAll fuel call.isLocal exported assignments
      trace (assigned ++ call.shown)
      let outcome ← attempt do
        match call.runner, call.fields with
        | _, [] =>
          let state ← get
          setStatus state.substituted
          return state.substituted
        | .builtin builtin, fields => runBuiltin fuel manner builtin fields
        | .function function, fields => runFunction fuel manner function fields.tail
        | .program, fields => runProgram manner call.path fields
      match outcome with
      | .ok status =>
        close
        return status
      | .error departure =>
        if departure = .failed ∧ call.special = some false then
          close
          return (← get).status
        else throw departure
termination_by structural fuel => fuel

/-- Runs a script and gives its status. -/
def evaluate : (fuel : Nat) → Manner → Script → Act Nat
  | 0, _, _ => throw .over
  | fuel + 1, manner, script => do
    let isSkipped := (← get).has 'n' || match script with
      | .nothing => true
      | _ => false
    let status ← if isSkipped then pure 0 else do
      runTraps fuel
      match ← evaluateParts fuel manner script with
      | (status, true) =>
        setStatus status
        pure status
      | (status, false) => pure status
    runTraps fuel
    let isChecked := match script with
      | .simple .. | .subshell .. | .background .. | .pipeline .. => true
      | _ => false
    if isChecked && !manner.tested && status ≠ 0 && (← get).has 'e' then throw .over
    else if manner.last then throw .over
    else return status
termination_by structural fuel => fuel

/-- Runs the parts of a script, and gives its status and whether that counts as the
status of the shell. -/
def evaluateParts : (fuel : Nat) → Manner → Script → Act (Nat × Bool)
  | 0, _, _ => throw .over
  | fuel + 1, manner, script => do
    let settled (action : Act Nat) : Act (Nat × Bool) := (·, true) <$> action
    match script with
    | .nothing => return (0, false)
    | .simple line assignments words redirects =>
      setLine line
      settled (runSimple fuel manner assignments words redirects)
    | .sequence first second =>
      let status ← evaluate fuel ⟨false, manner.tested⟩ first
      if ← flowsOn then settled (evaluate fuel manner second) else return (status, false)
    | .both first second =>
      let status ← evaluate fuel Manner.condition first
      if status = 0 ∧ (← flowsOn) then settled (evaluate fuel manner second)
      else return (status, false)
    | .either first second =>
      let status ← evaluate fuel Manner.condition first
      if status ≠ 0 ∧ (← flowsOn) then settled (evaluate fuel manner second)
      else return (status, false)
    | .negated body =>
      settled do
        let status ← evaluate fuel Manner.condition body
        return if status = 0 then 1 else 0
    | .pipeline commands =>
      settled do await (← startPipeline fuel manner false none commands)
    | .background line (.pipeline commands) =>
      setLine line
      settled do
        addJob (← startPipeline fuel manner true none commands)
        return 0
    | .background line body =>
      setLine line
      settled do
        let id ← fork fuel do
          ignoreKeyboard
          readNothing
          let _ ← evaluate fuel ⟨true, false⟩ body
        addJob [id]
        return 0
    | .subshell line body redirects =>
      setLine line
      settled do
        let openings ← expandRedirects fuel redirects
        let inside : Act Unit := do
          if ← redirectAll false openings then
            let _ ← evaluate fuel ⟨true, manner.tested⟩ body
          else
            setStatus 2
            throw .failed
        if manner.last ∧ !(← get).hasTraps then
          inside
          return 0
        else await [← fork fuel inside]
    | .redirected line body redirects =>
      setLine line
      settled do
        let openings ← expandRedirects fuel redirects
        let redirections := (← get).redirected.length
        openRedirections
        let status ←
          if ← redirectAll true openings then evaluate fuel ⟨false, manner.tested⟩ body
          else pure 2
        closeRedirections redirections
        return status
    | .branch condition yes no =>
      let status ← evaluate fuel Manner.condition condition
      if ← flowsOn then
        if status = 0 then settled (evaluate fuel manner yes)
        else
          match no with
          | .nothing => return (0, true)
          | no => settled (evaluate fuel manner no)
      else return (status, false)
    | .loop negated condition body =>
      settled (inLoop (runLoop fuel manner.tested negated condition body 0))
    | .each line name words body =>
      setLine line
      settled do
        let fields ← match words with
          | some words => expandWords fuel words
          | none => pure (← get).args
        inLoop (runEach fuel manner.tested name body 0 fields)
    | .select line subject arms =>
      setLine line
      settled do
        let text := textOf (← expandPieces fuel (withHomes (← get) false true subject))
        runArms fuel manner text.toList arms
    | .define line name body =>
      modify fun state =>
        { state with
          functions := ⟨name, line, body⟩ ::
            state.functions.filter fun entry => entry.name ≠ name }
      return (0, true)
termination_by structural fuel => fuel

/-- Runs the rounds of a loop.  The status of a loop is that of its last round. -/
def runLoop : (fuel : Nat) → (tested negated : Bool) → (condition body : Script) →
    (status : Nat) → Act Nat
  | 0, _, _, _, _, _ => throw .over
  | fuel + 1, tested, negated, condition, body, status => do
    let held ← evaluate fuel Manner.condition condition
    match ← courseOfLoop with
    | .over => return status
    | .given => return held
    | .again => runLoop fuel tested negated condition body status
    | .onward =>
      if (held = 0) = negated then return status
      else
        let status ← evaluate fuel ⟨false, tested⟩ body
        match ← courseOfLoop with
        | .onward | .again => runLoop fuel tested negated condition body status
        | .over | .given => return status
termination_by structural fuel => fuel

/-- Runs a script for every field. -/
def runEach : (fuel : Nat) → (tested : Bool) → Octets → Script → (status : Nat) →
    List Octets → Act Nat
  | 0, _, _, _, _, _ => throw .over
  | _, _, _, _, status, [] => return status
  | fuel + 1, tested, name, body, _, field :: rest => do
    setVariable name field
    let status ← evaluate fuel ⟨false, tested⟩ body
    match ← courseOfLoop with
    | .onward | .again => runEach fuel tested name body status rest
    | .over | .given => return status
termination_by structural fuel => fuel

/-- Runs the first arm with a pattern that covers a text. -/
def runArms : (fuel : Nat) → Manner → List Char → List (List Word × Script) → Act Nat
  | 0, _, _, _ => throw .over
  | _, _, _, [] => return 0
  | fuel + 1, manner, text, (patterns, body) :: rest => do
    if ← coversAny fuel text patterns then
      match body with
      | .nothing => return 0
      | body => evaluate fuel manner body
    else runArms fuel manner text rest
termination_by structural fuel => fuel

/-- Whether one of several patterns covers a text. -/
def coversAny : (fuel : Nat) → List Char → List Word → Act Bool
  | 0, _, _ => throw .over
  | _, _, [] => return false
  | fuel + 1, text, word :: rest => do
    let marks ← expandPieces fuel (withHomes (← get) false true word)
    if Glob.covers (oneField marks).pattern text then return true
    else coversAny fuel text rest
termination_by structural fuel => fuel

/-- Runs the script that a text writes, and gives its status. -/
def runText : (fuel : Nat) → Manner → List Char → Act Nat
  | 0, _, _ => throw .over
  | fuel + 1, manner, text => do
    let state ← get
    -- The last command ends the text only if no line end is behind it.
    let last := manner.last && text.getLast? ≠ some '\n'
    runSource fuel { manner with last } 0 (.ofText text state.documents state.aliases)
termination_by structural fuel => fuel

/-- Runs what is left of a script that is being read. -/
def runSource : (fuel : Nat) → Manner → (status : Nat) → Source → Act Nat
  | 0, _, _, _ => throw .over
  | fuel + 1, manner, status, source => do
    let state ← get
    match { source with documents := state.documents, aliases := state.aliases : Source }.next with
    | .error misreading =>
      setLine misreading.line
      fail misreading.fault.message
    | .ok (none, _) => return status
    | .ok (some script, source) =>
      modify fun state => { state with documents := source.documents }
      let last := manner.last && source.text.isEmpty
      let found ← evaluate fuel { manner with last } script
      let status := match script with
        | .nothing => status
        | _ => found
      if ← flowsOn then runSource fuel manner status source else return status
termination_by structural fuel => fuel

/-- Runs a file as a part of the script. -/
def runFile : (fuel : Nat) → List Octets → Act Nat
  | 0, _ => throw .over
  | fuel + 1, args => do
    let (_, operands) ← optionsOf "" "" args
    match operands with
    | [] => return 0
    | name :: _ =>
      let path ←
        if name.toList.contains '/' then pure name
        else findReadable name (Kernel.candidates (← get).searchPath name)
      match ← ask (.open (Octets.toText path) .reading 0) with
      | .error fault =>
        fail ("cannot open " ++ path ++ ": " ++ openingFault "No such file" fault)
      | .ok descriptor =>
        let bytes := (← Kernel.readAll descriptor).toOption.getD .empty
        let _ ← ask (.close descriptor)
        modify fun state => { state with command := some path }
        let status ← runText fuel Manner.usual (Octets.charactersOf bytes)
        modify fun state =>
          { state with
            flow := match state.flow with
              | .back _ => .normal
              | flow => flow }
        return status
termination_by structural fuel => fuel

end

end HintFuzz.Shell
