import HintFuzz.Condition
import HintFuzz.Files.Permission
import HintFuzz.Format.Arguments
import HintFuzz.Shell.Jobs
import HintFuzz.Shell.Options
import HintFuzz.Shell.Redirection

/-!
# What a shell does itself

The commands that see or change the shell that runs them, as far as they run no
further commands.  Each gives its status.
-/

namespace HintFuzz.Shell

open Kernel (ask)

/-! ### Texts that can be read again -/

/-- Stretches between apostrophes, with the apostrophes of the text between
quotation marks. -/
def quotedStretches : (fuel : Nat) → List Char → List Char
  | 0, _ => []
  | fuel + 1, text =>
    let front := text.takeWhile (· ≠ '\'')
    let rest := text.drop front.length
    let marks := rest.takeWhile (· = '\'')
    let behind := rest.drop marks.length
    '\'' :: front ++ '\'' ::
      (if marks.isEmpty then []
       else '"' :: marks ++ '"' :: (if behind.isEmpty then [] else quotedStretches fuel behind))

/-- A text as a script may write it. -/
def quotedText (text : Octets) : Octets :=
  String.ofList (quotedStretches (text.length + 1) text.toList)

/-! ### Variables -/

/-- Whether a text may be the name of a variable. -/
def isVariableName (name : Octets) : Bool :=
  Reading.isName name.toList

/-- Gives up unless a text may be the name of a variable. -/
def checkName (name : Octets) : Act Unit :=
  if isVariableName name then pure () else fail (name ++ ": bad variable name")

/-- The name of an argument such as `name=value`, and its value if it has one. -/
def namedValue (arg : Octets) : Octets × Option Octets :=
  let name := arg.toList.takeWhile (· ≠ '=')
  match arg.toList.drop name.length with
  | _ :: value => (String.ofList name, some (String.ofList value))
  | [] => (arg, none)

/-- Prints variables, sorted by their names. -/
def listVariables (lead : String) (isMeant : Variable → Bool) : Act Unit := do
  let entries := (← get).defined.filter isMeant
  for entry in entries.mergeSort fun a b => a.name ≤ b.name do
    let value := match entry.value with
      | some value => "=" ++ quotedText value
      | none => ""
    print (lead ++ entry.name ++ value ++ "\n")

/-- Gives variables a property, and values if some are given. -/
def markVariables (property : Variable → Variable) : List Octets → Act Unit
  | [] => pure ()
  | arg :: rest => do
    let (name, value) := namedValue arg
    checkName name
    if value.isSome then changeVariable name value false
    modify fun state =>
      state.withVariable (property ((state.lookup? name).getD ⟨name, none, false, false⟩))
    markVariables property rest

/-- `export` and `readonly`: variables get a property, or those that have it are
listed. -/
def markOrList (name : String) (property : Variable → Variable) (hasIt : Variable → Bool)
    (args : List Octets) : Act Nat := do
  let (options, operands) ← optionsOf "p" "" args
  if options.isEmpty ∧ !operands.isEmpty then markVariables property operands
  else listVariables (name ++ " ") hasIt
  return 0

/-- `local`: variables that come back when the function is through. -/
def localize : List Octets → Act Nat
  | [] => return 0
  | "-" :: rest => do
    modify fun state =>
      match state.shadowed with
      | (frame, none) :: outer => { state with shadowed := (frame, some state.options) :: outer }
      | _ => state
    localize rest
  | arg :: rest => do
    let (name, value) := namedValue arg
    checkName name
    shadow name
    if value.isSome then changeVariable name value false
    localize rest

/-- `unset`: variables or functions are forgotten. -/
def forget (functions : Bool) : List Octets → Act Nat
  | [] => return 0
  | name :: rest => do
    if functions then
      modify fun state =>
        { state with functions := state.functions.filter fun entry => entry.name ≠ name }
    else
      checkName name
      removeVariable name
    forget functions rest

/-! ### Arguments -/

/-- Replaces the arguments of the script. -/
def setArguments (args : List Octets) : Act Unit :=
  modify fun state => { state with args, optionIndex := 1, optionOffset := none }

/-- `set`: variables are listed, or options are switched and arguments replaced. -/
def setAll (args : List Octets) : Act Nat := do
  if args.isEmpty then listVariables "" fun entry => entry.value.isSome
  else
    let switched ← switchOptions false (args.length + 1) args
    if switched.ended ∨ !switched.operands.isEmpty then setArguments switched.operands
  return 0

/-- `shift`: arguments are dropped. -/
def shift (args : List Octets) : Act Nat := do
  let count ← match args with
    | [] => pure 1
    | arg :: _ => natArgument arg
  let state ← get
  if state.args.length < count then fail "can't shift that many"
  else
    setArguments (state.args.drop count)
    return 0

/-- The place of a letter among the options that are looked for: whether it takes a
value. -/
def takesValue? (letter : Char) : List Char → Option Bool
  | [] => none
  | c :: rest =>
    if c = letter then some (rest.head? = some ':')
    else
      match rest with
      | ':' :: rest => takesValue? letter rest
      | rest => takesValue? letter rest

/-- `getopts`: the next option of some arguments. -/
def nextOption (letters name : Octets) (args : List Octets) : Act Nat := do
  let state ← get
  let tooFar := args.length + 1 < state.optionIndex
  let index := if tooFar then 1 else state.optionIndex
  let offset := if tooFar then none else state.optionOffset
  let current := if index ≤ 1 then [] else
    match offset, args[index - 2]? with
    | some offset, some arg => arg.toList.drop offset
    | _, _ => []
  let finish (index : Nat) (offset : Option Nat) (value : Octets) (status : Nat) : Act Nat := do
    changeVariable "OPTIND" (some (toString index)) false
    checkName name
    setVariable name value
    modify fun state => { state with optionIndex := index, optionOffset := offset }
    return status
  let (pending, index) : Option (List Char) × Nat :=
    if !current.isEmpty then (some current, index)
    else
      match (args[index - 1]?).map String.toList with
      | some ['-', '-'] => (none, index + 1)
      | some ('-' :: c :: rest) => (some (c :: rest), index + 1)
      | _ => (none, index)
  let silent := letters.startsWith ":"
  match pending with
  | none | some [] => finish index none "?" 1
  | some (c :: rest) =>
    let length := ((args[index - 2]?).getD "").length
    let here := if rest.isEmpty then some length else some (length - rest.length)
    let complainOf (text : Octets) : Act Unit := do
      if silent then setVariable "OPTARG" (String.singleton c)
      else
        printError (text ++ "\n")
        removeVariable "OPTARG"
    match takesValue? c letters.toList with
    | none =>
      complainOf ("Illegal option -" ++ String.singleton c)
      finish index here "?" 0
    | some false =>
      setVariable "OPTARG" ""
      finish index here (String.singleton c) 0
    | some true =>
      if !rest.isEmpty then
        setVariable "OPTARG" (String.ofList rest)
        finish index none (String.singleton c) 0
      else
        match args[index - 1]? with
        | some value =>
          setVariable "OPTARG" value
          finish (index + 1) none (String.singleton c) 0
        | none =>
          complainOf ("No arg for -" ++ String.singleton c ++ " option")
          finish index here (if silent then ":" else "?") 0

/-! ### Reading -/

/-- The line at the front of the input, and whether a line feed ends it.  Unless
it is read as it stands, a backslash quotes the next character, or takes a line
feed away. -/
def readField (plain : Bool) : (fuel : Nat) → (quoting : Bool) → (before : Field) →
    Act (Field × Bool)
  | 0, _, before => return (before.reverse, false)
  | fuel + 1, quoting, before => do
    match ← ask (.read 0 1) with
    | .error .interrupted =>
      takeSignals
      if (← get).caught.isEmpty then readField plain fuel quoting before
      else return (before.reverse, false)
    | .error _ => return (before.reverse, false)
    | .ok bytes =>
      match Octets.charactersOf bytes with
      | [] => return (before.reverse, false)
      | c :: _ =>
        if c = '\x00' then readField plain fuel quoting before
        else if quoting then
          readField plain fuel false (if c = '\n' then before else (c, true) :: before)
        else if c = '\\' ∧ !plain then readField plain fuel true before
        else if c = '\n' then return (before.reverse, true)
        else readField plain fuel false ((c, false) :: before)

/-- Sets variables to texts; those that get none are empty. -/
def fillVariables : List Octets → List Octets → Act Unit
  | [], _ => pure ()
  | name :: names, texts => do
    checkName name
    setVariable name (texts.headD "")
    fillVariables names texts.tail

/-- `read`: a line of the input is read into variables. -/
def readLine (args : List Octets) : Act Nat := do
  let (options, names) ← optionsOf "r" "p" args
  if names.isEmpty then fail "arg count"
  else
    let plain := options.any fun option => option.1 = 'r'
    let (field, ended) ← readField plain Kernel.ages false []
    let state ← get
    let fields := splitLine state.separators names.length [] false field
    fillVariables names (fields.map Field.text)
    return if ended then 0 else 1

/-! ### Directories -/

/-- A path from a directory, without the names that lead nowhere. -/
def joinPath (directory path : Octets) : Octets :=
  let names := (Text.stretches '/' (if path.startsWith "/" then path else
    directory ++ "/" ++ path).toList)
  let kept := names.foldl (fun kept name =>
    if name.isEmpty ∨ name = ['.'] then kept
    else if name = ['.', '.'] then kept.drop 1
    else name :: kept) ([] : List (List Char))
  "/" ++ String.intercalate "/" (kept.reverse.map String.ofList)

/-- The path of the directory itself. -/
def physicalDirectory : Act Octets := do
  return ((← ask .here).toOption.map Octets.ofText).getD ""

/-- Keeps the path of the directory that was entered. -/
def setDirectory (path : Octets) (keepsOld : Bool) : Act Unit := do
  if keepsOld then changeVariable "OLDPWD" (some (← get).directory) true
  modify fun state => { state with directory := path }
  changeVariable "PWD" (some path) true

/-- Enters a directory and tells whether that could be done.  If the path is
`physical`, the links on the way are left out of it. -/
def enter (physical : Bool) (path : Octets) : Act Bool := do
  let state ← get
  let target := if physical then path else joinPath state.directory path
  match ← ask (.enter (Octets.toText target)) with
  | .error _ => return false
  | .ok _ =>
    let path ← if physical then physicalDirectory else pure target
    setDirectory path true
    return true

/-- Enters the first directory that a list of places holds. -/
def enterAmong (physical : Bool) (path : Octets) : List Octets → Act (Option Bool)
  | [] => return none
  | place :: rest => do
    let target := if place.isEmpty then path else place ++ "/" ++ path
    match ← ask (.facts (Octets.toText target) true) with
    | .ok facts =>
      if facts.kind = .directory then
        if ← enter physical target then return some (!place.isEmpty) else return none
      else enterAmong physical path rest
    | .error _ => enterAmong physical path rest

/-- Whether the options ask for the path without links. -/
def asksPhysical (options : List (Char × Octets)) : Bool :=
  (options.getLast?.map Prod.fst) = some 'P'

/-- `cd`: another directory is entered. -/
def changeDirectory (args : List Octets) : Act Nat := do
  let (options, operands) ← optionsOf "LP" "" args
  let physical := asksPhysical options
  let state ← get
  let back := operands.head? = some "-"
  let path := match operands.head? with
    | none => (state.value? "HOME").getD ""
    | some "-" => (state.value? "OLDPWD").getD ""
    | some path => path
  let firstName := path.toList.takeWhile (· ≠ '/')
  let isFixed := path.startsWith "/" || firstName = ['.'] || firstName = ['.', '.']
  let shows ← do
    if isFixed then
      pure (if ← enter physical path then some false else none)
    else
      let path := if path.isEmpty then "." else path
      let places := match state.value? "CDPATH" with
        | some text => (Text.stretches ':' text.toList).map String.ofList
        | none => []
      match ← enterAmong physical path places with
      | some shows => pure (some shows)
      | none => pure (if ← enter physical path then some false else none)
  match shows with
  | none => fail ("can't cd to " ++ path)
  | some shows =>
    if back ∨ shows then print ((← get).directory ++ "\n")
    return 0

/-- `pwd`: the directory is printed. -/
def printDirectory (args : List Octets) : Act Nat := do
  let (options, _) ← optionsOf "LP" "" args
  if asksPhysical options then print ((← physicalDirectory) ++ "\n")
  else print ((← get).directory ++ "\n")
  return 0

/-! ### Signals -/

/-- The signal that a number stands for, or a name in upper or lower case. -/
def signalOf? (text : Octets) : Option Signal :=
  let number? := if !text.isEmpty && text.toList.all Char.isDigit then text.toNat? else none
  match number? with
  | some number =>
    if number ≤ 64 then
      some ((Signal.all.find? fun signal => signal.number = number).getD
        ⟨number, "RTMIN", .ends, "Real-time signal"⟩)
    else none
  | none => Signal.all.find? fun signal => signal.name = text.toUpper

/-- Says what is done about signals. -/
def setTraps (action : Option Octets) : List Octets → Act Nat
  | [] => return 0
  | name :: rest => do
    match signalOf? name with
    | none =>
      printError ("trap: " ++ name ++ ": bad trap\n")
      return 1
    | some signal =>
      modify fun state =>
        let others := state.traps.filter fun entry => entry.1 ≠ signal
        { state with traps := (action.map fun action => (signal, action)).toList ++ others }
      if signal.number ≠ 0 then
        let _ ← ask (.dispose signal (match action with
          | none => .usual
          | some "" => .ignored
          | some _ => .caught))
      setTraps action rest

/-- `trap`: what is run when signals are caught. -/
def trap (args : List Octets) : Act Nat := do
  let (_, operands) ← optionsOf "" "" args
  match operands with
  | [] =>
    for (signal, action) in (← get).traps.mergeSort fun a b => a.1.number ≤ b.1.number do
      print ("trap -- " ++ quotedText action ++ " " ++ signal.name ++ "\n")
    return 0
  | [name] => setTraps none [name]
  | first :: rest =>
    if first.toList.all Char.isDigit ∧ (signalOf? first).isSome then setTraps none operands
    else setTraps (if first = "-" then none else some first) rest

/-- How `kill` is used. -/
def killUsage : String :=
  "Usage: kill [-s sigspec | -signum | -sigspec] [pid | job]... or\nkill -l [exitstatus]"

/-- Sends a signal to processes and jobs. -/
def sendAll (signal : Signal) : (status : Nat) → List Octets → Act Nat
  | status, [] => return status
  | status, target :: rest => do
    let sent ←
      if target.startsWith "%" then
        let _ ← jobOf target
        -- No process of a job leads a group of its own.
        pure false
      else
        let negative := target.startsWith "-"
        let number ← natArgument (if negative then String.ofList (target.toList.drop 1) else target)
        let id : Int := if negative then -(number : Int) else number
        pure (← ask (.signal id signal)).isOk
    if sent then sendAll signal status rest
    else
      complain "No such process\n"
      sendAll signal 1 rest

/-- `kill`: signals are sent or listed. -/
def kill (args : List Octets) : Act Nat := do
  let fromOption? : Option Signal := match args.head?.map String.toList with
    | some ('-' :: c :: name) =>
      let name := String.ofList (c :: name)
      (signalOf? name).filter fun signal => signal.number ≠ 0 || name = "0"
    | _ => none
  let (signal?, lists, operands) : Option Signal × Bool × List Octets ←
    match fromOption? with
    | some signal => pure (some signal, false, args.drop 1)
    | none =>
      if args.head?.any fun arg => arg.startsWith "-" then
        let (options, operands) ← optionsOf "l" "s" args
        match options.find? fun option => option.1 = 's' with
        | some (_, name) =>
          let found? := (signalOf? name).filter fun signal => signal.number ≠ 0 || name = "0"
          match found? with
          | some signal =>
            pure (some signal, options.any fun option => option.1 = 'l', operands)
          | none => fail ("invalid signal number or name: " ++ name)
        | none => pure (none, options.any fun option => option.1 = 'l', operands)
      else pure (none, false, args)
  if lists then
    if signal?.isSome then fail killUsage
    else
      match operands with
      | [] =>
        print "0\n"
        for signal in Signal.all.drop 1 do print (signal.name ++ "\n")
        return 0
      | arg :: _ =>
        let number ← natArgument arg
        let number := if 128 < number then number - 128 else number
        match Signal.all.find? fun signal => signal.number = number && number ≠ 0 with
        | some signal =>
          print (signal.name ++ "\n")
          return 0
        | none => fail ("invalid signal number or exit status: " ++ arg)
  else if operands.isEmpty then fail killUsage
  else
    let usual : Signal := ⟨15, "TERM", .ends, "Terminated"⟩
    sendAll (signal?.getD usual) 0 operands

/-! ### Jobs -/

/-- `wait`: waits for processes and jobs, or for all of them. -/
def waitFor : (status : Nat) → List Octets → Act Nat
  | status, [] => return status
  | status, target :: rest => do
    let number? ←
      if target.startsWith "%" then do
        let job ← jobOf target
        pure (some job.number)
      else do
        let id ← natArgument target
        let job? := (← get).jobs.find? fun job =>
          (job.processes.getLast?.map Prod.fst) = some id
        pure (job?.map Job.number)
    match number? with
    | none => waitFor status rest
    | some number =>
      let (status, interrupted) ← awaitJob number Kernel.ages
      if interrupted then return status else waitFor status rest

/-- `wait`. -/
def waitAll (args : List Octets) : Act Nat := do
  let (_, operands) ← optionsOf "" "" args
  if operands.isEmpty then awaitJobs Kernel.ages else waitFor 127 operands

/-! ### Names of commands -/

/-- Where a program is found, or why it is not. -/
def findProgram (path name : Octets) : Act (Except Files.Fault Octets) := do
  let rec search (fault : Files.Fault) : List Octets → Act (Except Files.Fault Octets)
    | [] => return .error fault
    | candidate :: rest => do
      match ← ask (.facts (Octets.toText candidate) true) with
      | .error .notFound | .error .notDirectory => search fault rest
      | .error fault => search fault rest
      | .ok facts =>
        if facts.kind = .file ∧ facts.mode &&& 0o111 ≠ 0 then return .ok candidate
        else search .permissionDenied rest
  search .notFound (Kernel.candidates path name)

/-- The directories in which programs are looked for. -/
def State.searchPath (state : State) : Octets :=
  (state.value? "PATH").getD ""

/-- Where programs are looked for if a script must not choose. -/
def standardPath : Octets :=
  "/usr/sbin:/usr/bin:/sbin:/bin"

/-- The order in which names are listed that are kept in a table of 31 places. -/
def programBucket (name : Octets) : Nat :=
  let codes := name.toList.map Char.toNat
  (codes.foldl (· + ·) (16 * codes.headD 0)) % 31

/-- Keeps where a program was found. -/
def keepFound (name path : Octets) : Act Unit :=
  modify fun state =>
    if name.toList.contains '/' ∨ state.found.any fun entry => entry.1 = name then state
    else { state with found := state.found ++ [(name, path)] }

/-- `hash`: the programs that were found are listed, or looked for. -/
def hashNames (args : List Octets) : Act Nat := do
  let (options, operands) ← optionsOf "r" "" args
  if !options.isEmpty then
    modify fun state => { state with found := [] }
    return 0
  else if operands.isEmpty then
    for (_, path) in (← get).found.mergeSort fun a b => programBucket a.1 ≤ programBucket b.1 do
      print (path ++ "\n")
    return 0
  else
    let rec find : (status : Nat) → List Octets → Act Nat
      | status, [] => return status
      | status, name :: rest => do
        match ← findProgram (← get).searchPath name with
        | .ok path =>
          keepFound name path
          find status rest
        | .error fault =>
          complain (name ++ ": " ++ openingFault "not found" fault)
          find 1 rest
    find 0 operands

/-! ### Names for commands -/

/-- The line of an alias. -/
def aliasLine (entry : Octets × Octets) : Octets :=
  entry.1 ++ "=" ++ quotedText entry.2 ++ "\n"

/-- `alias`: aliases are set or listed. -/
def setAliases : (status : Nat) → List Octets → Act Nat
  | status, [] => return status
  | status, arg :: rest => do
    match namedValue arg with
    | (name, some value) =>
      if name.isEmpty then
        printError ("alias: " ++ arg ++ " not found\n")
        setAliases 1 rest
      else
        modify fun state =>
          { state with
            aliases :=
              if state.aliases.any fun entry => entry.1 = name then
                state.aliases.map fun entry => if entry.1 = name then (name, value) else entry
              else state.aliases ++ [(name, value)] }
        setAliases status rest
    | (name, none) =>
      match (← get).aliases.find? fun entry => entry.1 = name with
      | some entry =>
        print (aliasLine entry)
        setAliases status rest
      | none =>
        printError ("alias: " ++ name ++ " not found\n")
        setAliases 1 rest

/-- `alias`. -/
def aliasCommand (args : List Octets) : Act Nat := do
  if args.isEmpty then
    for entry in (← get).aliases.mergeSort fun a b => bucket a.1 ≤ bucket b.1 do
      print (aliasLine entry)
    return 0
  else setAliases 0 args

/-- `unalias`: aliases are forgotten. -/
def unalias (args : List Octets) : Act Nat := do
  let (options, operands) ← optionsOf "a" "" args
  if !options.isEmpty then
    modify fun state => { state with aliases := [] }
    return 0
  else
    let rec drop : (status : Nat) → List Octets → Act Nat
      | status, [] => return status
      | status, name :: rest => do
        if (← get).aliases.any fun entry => entry.1 = name then
          modify fun state =>
            { state with aliases := state.aliases.filter fun entry => entry.1 ≠ name }
          drop status rest
        else
          printError ("unalias: " ++ name ++ " not found\n")
          drop 1 rest
    drop 0 operands

/-! ### The course of a script -/

/-- `break` and `continue`: the course of loops is changed.  Outside of them
nothing happens. -/
def steer (flow : Nat → Flow) (args : List Octets) : Act Nat := do
  let count ← match args with
    | [] => pure 1
    | arg :: _ => natArgument arg
  if count = 0 then fail "Illegal number: 0"
  else
    let loops := (← get).loops
    let count := if loops < count then loops else count
    if 0 < count then modify fun state => { state with flow := flow count }
    return 0

/-- `return`: the function or the script that is running is over. -/
def giveBack (args : List Octets) : Act Nat := do
  let status ← match args with
    | [] => pure (← get).status
    | arg :: _ => natArgument arg
  modify fun state => { state with flow := .back (!args.isEmpty) }
  return status

/-- `exit`: the script is over. -/
def leave (args : List Octets) : Act Nat := do
  if let arg :: _ := args then
    let status ← natArgument arg
    modify fun state => { state with leaving := some status }
  throw .left

/-! ### Limits -/

/-- `umask`: what new files may not be used for is shown or set. -/
def umask (args : List Octets) : Act Nat := do
  let (options, operands) ← optionsOf "S" "" args
  let mask ← ask (.mask none)
  match operands with
  | [] =>
    if options.isEmpty then
      let digits := Nat.toDigits 8 mask
      print (String.ofList (List.replicate (4 - digits.length) '0' ++ digits) ++ "\n")
    else print (Files.PermissionSpec.describeMask mask ++ "\n")
    return 0
  | text :: _ =>
    if text.toList.head?.any Char.isDigit then
      if text.toList.all fun c => '0' ≤ c && c ≤ '7' then
        let mask := text.toList.foldl (fun mask c => 8 * mask + (c.toNat - 48)) 0
        let _ ← ask (.mask (some (mask &&& 0o777)))
        return 0
      else fail ("Illegal number: " ++ text)
    else
      match Files.PermissionSpec.ofText? text with
      | some spec =>
        let left := spec.apply 0 (0o777 - (mask &&& 0o777)) false
        let _ ← ask (.mask (some (0o777 - (left &&& 0o777))))
        return 0
      | none => fail ("Illegal mode: " ++ text)

/-- The limits of processes: letter, name and value. -/
def limits : List (Char × String × String) :=
  [('t', "time(seconds)", "unlimited"), ('f', "file(blocks)", "unlimited"),
   ('d', "data(kbytes)", "unlimited"), ('s', "stack(kbytes)", "8192"),
   ('c', "coredump(blocks)", "0"), ('m', "memory(kbytes)", "unlimited"),
   ('l', "locked memory(kbytes)", "8192"), ('p', "process", "128620"),
   ('n', "nofiles", "1048576"), ('v', "vmemory(kbytes)", "unlimited"),
   ('w', "locks", "unlimited"), ('r', "rtprio", "0")]

/-- `ulimit`: limits are shown; setting one changes nothing that shows. -/
def ulimit (args : List Octets) : Act Nat := do
  let (options, operands) ← optionsOf "HSatfdscmlpnvwr" "" args
  let letters := (options.map Prod.fst).filter fun c => c ≠ 'H' && c ≠ 'S'
  if letters.getLast? = some 'a' then
    for (_, name, value) in limits do
      print (name ++ String.ofList (List.replicate (20 - name.length) ' ') ++ " " ++ value ++ "\n")
    return 0
  else
    match operands with
    | [] =>
      let letter := (letters.getLast?).getD 'f'
      let value := ((limits.find? fun entry => entry.1 = letter).map fun entry =>
        entry.2.2).getD "unlimited"
      print (value ++ "\n")
      return 0
    | [value] =>
      if value = "unlimited" ∨ value.toList.all Char.isDigit then return 0
      else fail "bad number"
    | _ => fail "too many arguments"

/-! ### Printing -/

/-- What `echo` prints. -/
def echoed (args : List Octets) : Octets :=
  let (feed, args) := match args with
    | "-n" :: rest => (false, rest)
    | args => (true, args)
  let text := String.intercalate " " args
  let (characters, ended) := Format.unescape false (text.length + 1) text.toList
  String.ofList (if feed && !ended then characters ++ ['\n'] else characters)

/-- The words for an argument that is no number. -/
def argumentMessage (fault : Format.ArgumentFault) : Octets :=
  fault.arg ++ match fault.defect with
    | .noNumber => ": expected numeric value"
    | .tooLong => ": not completely converted"
    | .outOfRange => ": Numerical result out of range"

/-- The words for a format that cannot be used. -/
def formatMessage : Format.FormatFault → Octets
  | .missingLetter => "missing format character"
  | .invalidDirective directive => directive ++ ": invalid directive"

/-- `printf`. -/
def printFormat (args : List Octets) : Act Nat := do
  let (_, operands) ← optionsOf "" "" args
  match operands with
  | [] => fail "usage: printf format [arg ...]"
  | format :: args =>
    let result := Format.formatted false format args
    for fault in result.complaints do complain (argumentMessage fault)
    print (String.ofList result.text)
    match result.fault with
    | some fault => fail (formatMessage fault)
    | none => return if result.complaints.isEmpty then 0 else 1

/-- `test`. -/
def test (name : Octets) (args : List Octets) : Act Nat := do
  match ← Kernel.attempt (Condition.ofCommand name args) with
  | .ok holds => return if holds then 0 else 1
  | .error fault => fail fault

/-! ### All of them -/

/-- What a command of the shell does. -/
inductive BuiltinAction
  /-- It runs no further commands. -/
  | plain
  /-- Its arguments are a script. -/
  | eval
  /-- A file is run as a part of the script. -/
  | source
  /-- Another program takes the place of the shell. -/
  | exec
  /-- Its arguments are a command. -/
  | command
deriving DecidableEq

/-- A command of the shell. -/
structure Builtin where
  /-- An error in it ends the script, and assignments in front of it stay. -/
  special : Bool
  /-- Its arguments may be assignments. -/
  assigns : Bool
  action : BuiltinAction

/-- The special commands of the shell. -/
def specialBuiltins : List String :=
  [".", ":", "break", "continue", "eval", "exec", "exit", "export", "local", "readonly", "return",
   "set", "shift", "times", "trap", "unset"]

/-- The other commands of the shell. -/
def usualBuiltins : List String :=
  ["alias", "bg", "cd", "chdir", "command", "echo", "false", "fg", "getopts", "hash", "jobs",
   "kill", "printf", "pwd", "read", "test", "[", "true", "type", "ulimit", "umask", "unalias",
   "wait"]

/-- The command of the shell that has a name. -/
def builtin? (name : Octets) : Option Builtin :=
  let assigns := ["alias", "export", "local", "readonly"].contains name
  let action : BuiltinAction := match name with
    | "." => .source
    | "command" => .command
    | "eval" => .eval
    | "exec" => .exec
    | _ => .plain
  if specialBuiltins.contains name then some ⟨true, assigns, action⟩
  else if usualBuiltins.contains name then some ⟨false, assigns, action⟩
  else none

/-- Says what a command is, in words if it is `verbose`. -/
def describe (verbose : Bool) (path : Option Octets) (name : Octets) : Act Nat := do
  let state ← get
  let say (words plain : Octets) : Act Nat := do
    print ((if verbose then name ++ words else plain) ++ "\n")
    return 0
  if Reading.keywords.contains name then say " is a shell keyword" name
  else
    match state.aliases.find? fun entry => entry.1 = name with
    | some entry =>
      if verbose then say (" is an alias for " ++ entry.2) ""
      else
        print ("alias " ++ aliasLine entry)
        return 0
    | none =>
      if state.functions.any fun entry => entry.name = name then say " is a shell function" name
      else
        match builtin? name with
        | some builtin =>
          let kind := if builtin.special then "special shell builtin" else "shell builtin"
          say (" is a " ++ kind) name
        | none =>
          let missing : Act Nat := do
            if verbose then print (name ++ ": not found\n")
            return 127
          if name.toList.contains '/' then
            match ← ask (.facts (Octets.toText name) true) with
            | .ok _ => say (" is " ++ name) name
            | .error _ => missing
          else
            match path, state.found.find? fun entry => entry.1 = name with
            | none, some (_, found) => say (" is a tracked alias for " ++ found) found
            | _, _ =>
              match ← findProgram (path.getD state.searchPath) name with
              | .ok found =>
                if path.isNone then keepFound name found
                say (" is " ++ found) found
              | .error _ => missing

/-- Says what several commands are. -/
def describeAll : (status : Nat) → List Octets → Act Nat
  | status, [] => return status
  | status, name :: rest => do
    let found ← describe true none name
    describeAll (status ||| found) rest

/-- Runs a command of the shell that runs no further commands. -/
def runPlain (name : Octets) (args : List Octets) : Act Nat := do
  match name with
  | "break" => steer .leave args
  | "continue" => steer .next args
  | "exit" => leave args
  | "export" =>
    markOrList "export" (fun entry => { entry with exported := true }) Variable.exported args
  | "local" =>
    if (← get).shadowed.isEmpty then fail "not in a function" else localize args
  | "readonly" =>
    markOrList "readonly" (fun entry => { entry with fixed := true }) Variable.fixed args
  | "return" => giveBack args
  | "set" => setAll args
  | "shift" => shift args
  | "times" =>
    print "0m0.000000s 0m0.000000s\n0m0.000000s 0m0.000000s\n"
    return 0
  | "trap" => trap args
  | "unset" =>
    let (options, operands) ← optionsOf "vf" "" args
    forget ((options.getLast?.map Prod.fst) = some 'f') operands
  | "alias" => aliasCommand args
  | "bg" | "fg" =>
    let _ ← jobOf (args.headD "%")
    fail "job not created under job control"
  | "cd" | "chdir" => changeDirectory args
  | "echo" =>
    print (echoed args)
    return 0
  | "false" => return 1
  | "getopts" =>
    match args with
    | [letters, name] => nextOption letters name (← get).args
    | letters :: name :: args => nextOption letters name args
    | _ => fail "Usage: getopts optstring var [arg...]"
  | "hash" => hashNames args
  | "jobs" =>
    let (options, texts) ← optionsOf "lp" "" args
    listJobs (options.any fun option => option.1 = 'l') (options.any fun option => option.1 = 'p')
      texts
    return 0
  | "kill" => kill args
  | "printf" => printFormat args
  | "pwd" => printDirectory args
  | "read" => readLine args
  | "test" | "[" => test name args
  | "type" => describeAll 0 args
  | "ulimit" => ulimit args
  | "umask" => umask args
  | "unalias" => unalias args
  | "wait" => waitAll args
  | _ => return 0

end HintFuzz.Shell
