import HintFuzz.Edit.Reader
import HintFuzz.Utility.Options

/-!
# Editing

`sed` carries a script out for every line of its input.  The line that is worked on
may grow to several ones, and another text is held beside it.
-/

namespace HintFuzz.Edit

open Files (Fault)
open Kernel (ask)
open Utility (Act Line)

/-- Where a range of lines stands. -/
inductive RangeState
  | closed
  /-- It ends with the line of a number, or where its second address says. -/
  | opened (finish : Option Nat)
deriving DecidableEq

/-- A text that is written behind a line. -/
inductive Appended
  | text (characters : List Char)
  | file (path : Octets)

/-- A file that is written to. -/
structure Target where
  path : Octets
  /-- None for one that could not be opened. -/
  descriptor : Option Nat
  /-- A line feed is missing at its end. -/
  owes : Bool

/-- A file of which lines are read one by one. -/
structure Source where
  path : Octets
  lines : List Line

/-- How a script is carried out. -/
structure Settings where
  script : Script
  silent : Bool
  mark : Char
  /-- Every file is edited by itself. -/
  separate : Bool
  width : Nat

/-- What is worked on. -/
structure Work where
  /-- The files that were not read so far. -/
  paths : List Octets
  /-- The file that is being read. -/
  name : Octets
  descriptor : Option Nat
  lines : List Line
  /-- The start of a line that was read, the last character first. -/
  front : List Char
  pattern : List Char
  /-- Whether a mark was at the end of the line. -/
  ended : Bool
  hold : List Char
  number : Nat
  appended : List Appended
  replaced : Bool
  ranges : Array RangeState
  lastProgram : Option Regex.Program
  targets : List Target
  sources : List Source
  /-- A line feed is missing at the end of the output. -/
  owes : Bool

/-- Something that is done while editing. -/
abbrev Editing := StateT Work Act

/-- Complains and breaks off with a status. -/
def failWith {α : Type} (status : Nat) (message : Octets) : Act α := do
  Utility.warn message
  throw status

/-! ### Input -/

/-- Opens the next file that can be opened, and tells whether there is one. -/
def openNext : (paths : List Octets) → Editing Bool
  | [] => do
    modify fun work => { work with paths := [] }
    return false
  | path :: rest => do
    if path = "-" then
      modify fun work => { work with paths := rest, name := "-", descriptor := some 0 }
      return true
    else
      match ← (ask (.open (Utility.atPath path) .reading 0) : Act _) with
      | .ok descriptor =>
        modify fun work => { work with paths := rest, name := path, descriptor := some descriptor }
        return true
      | .error fault =>
        Utility.warn ("can't read " ++ path ++ ": " ++ fault.words)
        Utility.setStatus 2
        openNext rest

/-- Sees to it that a line is there that was not worked on, if there is one. -/
def provideLine (mark : Char) (across : Bool) : (fuel : Nat) → Editing Bool
  | 0 => return false
  | fuel + 1 => do
    let work ← get
    if !work.lines.isEmpty then return true
    else
      match work.descriptor with
      | none =>
        if across then
          if ← openNext work.paths then provideLine mark across fuel else return false
        else return false
      | some descriptor =>
        match ← (Utility.readSome descriptor : Act _) with
        | .error fault =>
          (Utility.flush : Act _)
          (failWith 4 ("read error on " ++ work.name ++ ": " ++ fault.words) : Act _)
        | .ok bytes =>
          if bytes.isEmpty then
            if descriptor ≠ 0 then
              let _ ← (ask (.close descriptor) : Act _)
            let last : List Line :=
              if work.front.isEmpty then [] else [⟨work.front.reverse, false⟩]
            set { work with descriptor := none, lines := last, front := [] }
            provideLine mark across fuel
          else
            let (lines, front) := Utility.cutLines mark work.front (Octets.charactersOf bytes) []
            set { work with lines, front }
            provideLine mark across fuel

/-- Whether there is a further line. -/
def hasNext (settings : Settings) : Editing Bool :=
  provideLine settings.mark (!settings.separate) Kernel.ages

/-- Takes the next line. -/
def takeLine (settings : Settings) : Editing (Option Line) := do
  if ← hasNext settings then
    let work ← get
    match work.lines with
    | line :: rest =>
      set { work with lines := rest, number := work.number + 1 }
      return some line
    | [] => return none
  else return none

/-! ### Output -/

/-- Prints characters behind what was printed. -/
def printText (text : List Char) : Editing Unit := do
  let work ← get
  if work.owes then
    Utility.print "\n"
    set { work with owes := false }
  Utility.print (String.ofList text)

/-- Prints a line with its mark; the one that the last line of a file lacks is
printed as soon as something follows. -/
def printLine (settings : Settings) (line : List Char) : Editing Unit := do
  let work ← get
  if work.ended then printText (line ++ [settings.mark])
  else
    printText line
    modify fun work => { work with owes := true }

/-- Writes a line to a file. -/
def writeTo (settings : Settings) (path : Octets) (line : List Char) : Editing Unit := do
  if path = "/dev/stdout" then printLine settings line
  else
    let work ← get
    match work.targets.find? fun (target : Target) => target.path = path with
    | some ⟨_, some descriptor, owes⟩ =>
      let text := (if owes then ['\n'] else []) ++ line ++
        (if work.ended then [settings.mark] else [])
      let _ ← (Kernel.writeAll descriptor (Octets.bytesOf text) : Act _)
      set { work with
        targets := work.targets.map fun (target : Target) =>
          if target.path = path then { target with owes := !work.ended } else target }
    | _ => pure ()

/-- Writes what is to be written behind a line. -/
def printAppended : Editing Unit := do
  let work ← get
  set { work with appended := [] }
  for appended in work.appended do
    match appended with
    | .text text => printText text
    | .file path =>
      match ← (Utility.contentOf (if path = "/dev/stdin" then "-" else path) : Act _) with
      | .ok bytes => unless bytes.isEmpty do printText (Octets.charactersOf bytes)
      | .error _ => pure ()

/-- A line in which everything is visible, cut into lines of a width. -/
def listedLine (width : Nat) (line : List Char) : List Char :=
  let shown (c : Char) : List Char :=
    if c = '\\' then ['\\', '\\']
    else if 32 ≤ c.toNat ∧ c.toNat < 127 then [c]
    else
      match c with
      | '\x07' => ['\\', 'a']
      | '\x08' => ['\\', 'b']
      | '\x0c' => ['\\', 'f']
      | '\n' => ['\\', 'n']
      | '\r' => ['\\', 'r']
      | '\t' => ['\\', 't']
      | '\x0b' => ['\\', 'v']
      | c => '\\' :: [c.toNat / 64 % 8, c.toNat / 8 % 8, c.toNat % 8].map fun digit =>
          Char.ofNat (48 + digit)
  let (text, _) := line.foldl (fun (text, column) c =>
    let part := shown c
    if 1 < width ∧ width - 1 < column + part.length then
      (part.reverse ++ '\n' :: '\\' :: text, part.length)
    else (part.reverse ++ text, column + part.length)) (([] : List Char), 0)
  text.reverse ++ ['$', '\n']

/-! ### Addresses -/

/-- The program of a pattern. -/
def programOf (pattern : Pattern) : Editing Regex.Program := do
  match pattern with
  | some program =>
    modify fun work => { work with lastProgram := some program }
    return program
  | none =>
    match (← get).lastProgram with
    | some program => return program
    | none => (Utility.fail "-e expression #1, char 0: no previous regular expression" : Act _)

/-- Whether an address is that of the line that is worked on. -/
def isAt (settings : Settings) (address : Address) : Editing Bool := do
  let work ← get
  match address with
  | .line number => return work.number = number
  | .every first step =>
    return first ≤ work.number && (work.number - first) % step = 0
  | .last => return !(← hasNext settings)
  | .covered pattern =>
    let program ← programOf pattern
    return (program.find? work.pattern.toArray 0 true).isSome

/-- Sets where the range of a command stands. -/
def setRange (index : Nat) (range : RangeState) : Editing Unit :=
  modify fun work => { work with ranges := work.ranges.set! index range }

/-- Whether a line is in the range of a command. -/
def isInRange (settings : Settings) (index : Nat) (start : Address) (finish : Finish) :
    Editing Bool := do
  let work ← get
  let line := work.number
  let startAt (last : Nat) : Editing Bool := do
    if line < last then setRange index (.opened (some last))
    return true
  match work.ranges.getD index .closed with
  | .closed =>
    if ← isAt settings start then
      match finish with
      | .place (.line last) => startAt last
      | .more count => startAt (line + count)
      | .multiple factor =>
        startAt (if factor = 0 then line else (line + factor - 1) / factor * factor)
      | .place _ =>
        setRange index (.opened none)
        return true
    else return false
  | .opened (some last) =>
    unless line < last do
      setRange index .closed
    return line ≤ last
  | .opened none =>
    match finish with
    | .place address =>
      if ← isAt settings address then setRange index .closed
    | _ => setRange index .closed
    return true

/-- Whether a command is for the line that is worked on. -/
def isSelected (settings : Settings) (index : Nat) (command : Command) : Editing Bool := do
  let selected ← match command.start, command.finish with
    | none, _ => pure true
    | some start, none => isAt settings start
    | some start, some finish => isInRange settings index start finish
  return selected != command.negated

/-! ### Replacing -/

/-- How letters change: all that follow, and the next one. -/
structure CaseState where
  all : Option CaseChange
  next : Option CaseChange

/-- Characters with their case changed. -/
def changedCase (state : CaseState) (text : List Char) : CaseState × List Char :=
  let apply (change : Option CaseChange) (c : Char) : Char :=
    match change with
    | some .upper | some .upperNext => c.toUpper
    | some .lower | some .lowerNext => c.toLower
    | _ => c
  match text with
  | [] => (state, [])
  | c :: rest =>
    let first := if state.next.isSome then apply state.next c else apply state.all c
    ({ state with next := none }, first :: rest.map (apply state.all))

/-- The text that a replacement gives. -/
def replacementText (line : List Char) (covered : Regex.Covered) (parts : List ReplacementPart) :
    List Char :=
  let add (state : CaseState × List Char) (text : List Char) : CaseState × List Char :=
    let (cases, text) := changedCase state.1 text
    (cases, state.2 ++ text)
  let (_, text) := parts.foldl (fun state part =>
    match part with
    | .text characters => add state characters
    | .group number =>
      match covered.group number with
      | some (first, last) => add state ((line.take last).drop first)
      | none => state
    | .change change =>
      match change with
      | .upperNext | .lowerNext => ({ state.1 with next := some change }, state.2)
      | .keep => (⟨none, none⟩, state.2)
      | change => ({ state.1 with all := some change }, state.2)) ((⟨none, none⟩ : CaseState), [])
  text

/-- A line in which stretches are replaced, if any are.  `number` counts the stretches
in front, `last` is where the one in front ends. -/
def replaceIn (substitution : Substitution) (program : Regex.Program) (line : List Char)
    (text : Array Char) :
    (fuel : Nat) → (start number : Nat) → (last : Option Nat) → List Char × Bool
  | 0, start, _, _ => (line.drop start, false)
  | fuel + 1, start, number, last =>
    match program.find? text start false with
    | none => (line.drop start, false)
    | some covered =>
      let front := (line.take covered.first).drop start
      let isEmpty := covered.first = covered.last
      let covers := (line.take covered.last).drop covered.first
      -- Nothing is found right behind a stretch that is not something itself.
      let isBound := isEmpty && last = some covered.first
      let step (kept : List Char) (changed : Bool) (number : Nat) : List Char × Bool :=
        if isEmpty then
          if line.length ≤ covered.first then (front ++ kept, changed)
          else
            let (rest, more) := replaceIn substitution program line text fuel (covered.first + 1)
              number (some covered.last)
            (front ++ kept ++ (line.drop covered.first).take 1 ++ rest, changed || more)
        else
          let (rest, more) := replaceIn substitution program line text fuel covered.last number
            (some covered.last)
          (front ++ kept ++ rest, changed || more)
      if isBound then step [] false number
      else if number + 1 < substitution.first then step covers false (number + 1)
      else
        let replaced := replacementText line covered substitution.replacement
        if substitution.all then step replaced true (number + 1)
        else (front ++ replaced ++ line.drop covered.last, true)

/-- Carries a substitution out. -/
def substitute (settings : Settings) (substitution : Substitution) : Editing Unit := do
  let program ← programOf substitution.pattern
  let work ← get
  let line := work.pattern
  let (text, changed) :=
    replaceIn substitution program line line.toArray (line.length + 2) 0 0 none
  if changed then
    set { work with pattern := text, replaced := true }
    if substitution.prints then printLine settings text
    if let some path := substitution.path then writeTo settings path text

/-! ### Commands -/

/-- What follows a command. -/
inductive Next
  | command (index : Nat)
  /-- The line is printed, and the next one is read. -/
  | line
  /-- The next line is read at once. -/
  | skip
  /-- The script starts again without reading. -/
  | restart
  | quit (status : Nat)
  | quitSilently (status : Nat)

/-- The first line of a text, and what stands behind its end. -/
def splitLine (text : List Char) : List Char × Option (List Char) :=
  let first := text.takeWhile (· ≠ '\n')
  match text.drop first.length with
  | [] => (first, none)
  | _ :: rest => (first, some rest)

/-- The next line of a file of which lines are read one by one. -/
def nextOf (path : Octets) : Editing (Option Line) := do
  let work ← get
  let source ← match work.sources.find? fun source => source.path = path with
    | some source => pure source
    | none => do
      let bytes := (← (Utility.contentOf path : Act _)).toOption.getD .empty
      let (lines, last) := Utility.cutLines '\n' [] (Octets.charactersOf bytes) []
      pure ⟨path, lines ++ (if last.isEmpty then [] else [⟨last.reverse, false⟩])⟩
  let others := work.sources.filter fun source => source.path ≠ path
  modify fun work => { work with sources := ⟨path, source.lines.drop 1⟩ :: others }
  return source.lines.head?

/-- Carries out the action of a command. -/
def act (settings : Settings) (index : Nat) (command : Command) : Editing Next := do
  let work ← get
  let goOn : Editing Next := return .command (index + 1)
  let setPattern (pattern : List Char) : Editing Next := do
    modify fun work => { work with pattern }
    goOn
  let append (appended : Appended) : Editing Next := do
    modify fun work => { work with appended := work.appended ++ [appended] }
    goOn
  let jump (label : Octets) : Next :=
    match settings.script.labels.find? fun entry => entry.1 = label with
    | some (_, target) => .command target
    | none => .line
  match command.action with
  | .nothing | .block _ => goOn
  | .append text => append (.text text)
  | .insert text =>
    printText text
    goOn
  | .change text =>
    let isOpen : Bool := match command.finish, work.ranges.getD index .closed with
      | some _, .opened _ => !command.negated
      | _, _ => false
    unless isOpen do
      printText text
    return .skip
  | .branch condition label =>
    match condition with
    | .always => return jump label
    | .replaced =>
      set { work with replaced := false }
      if work.replaced then return jump label else goOn
    | .notReplaced =>
      set { work with replaced := false }
      if work.replaced then goOn else return jump label
  | .delete => return .skip
  | .deleteFirst =>
    match splitLine work.pattern with
    | (_, none) => return .skip
    | (_, some rest) =>
      set { work with pattern := rest }
      return .restart
  | .print =>
    printLine settings work.pattern
    goOn
  | .printFirst =>
    let (first, rest) := splitLine work.pattern
    if rest.isSome then printText (first ++ [settings.mark]) else printLine settings first
    goOn
  | .next =>
    if ← hasNext settings then
      unless settings.silent do
        printLine settings work.pattern
      printAppended
      match ← takeLine settings with
      | some line =>
        modify fun work => { work with pattern := line.text, ended := line.ended }
        goOn
      | none => return .skip
    else return .quit 0
  | .appendNext =>
    if ← hasNext settings then
      printAppended
      match ← takeLine settings with
      | some line =>
        modify fun work =>
          { work with
            pattern := work.pattern ++ settings.mark :: line.text
            ended := line.ended }
        goOn
      | none => return .skip
    else return .quit 0
  | .get => setPattern work.hold
  | .getAppend => setPattern (work.pattern ++ settings.mark :: work.hold)
  | .hold =>
    set { work with hold := work.pattern }
    goOn
  | .holdAppend =>
    set { work with hold := work.hold ++ settings.mark :: work.pattern }
    goOn
  | .exchange =>
    set { work with pattern := work.hold, hold := work.pattern }
    goOn
  | .clear => setPattern []
  | .list width =>
    printText (listedLine (width.getD settings.width) work.pattern)
    goOn
  | .number =>
    printText ((toString work.number).toList ++ ['\n'])
    goOn
  | .fileName =>
    printText (work.name.toList ++ ['\n'])
    goOn
  | .quit status => return .quit status
  | .quitSilently status => return .quitSilently status
  | .readFile path => append (.file path)
  | .readLine path =>
    match ← nextOf path with
    | some line => append (.text (line.text ++ ['\n']))
    | none => goOn
  | .write path =>
    writeTo settings path work.pattern
    goOn
  | .writeFirst path =>
    writeTo settings path (splitLine work.pattern).1
    goOn
  | .substitute substitution =>
    substitute settings substitution
    goOn
  | .exchangeCharacters pairs =>
    setPattern (work.pattern.map fun c =>
      ((pairs.find? fun pair => pair.1 = c).map Prod.snd).getD c)

/-- Carries commands out from one on, up to the end of the script. -/
def runFrom (settings : Settings) : (fuel : Nat) → (index : Nat) → Editing Next
  | 0, _ => return .quit 0
  | fuel + 1, index => do
    match settings.script.commands[index]? with
    | none => return .line
    | some command =>
      let next ← if ← isSelected settings index command then act settings index command
        else
          match command.action with
          | .block finish => pure (.command finish)
          | _ => pure (.command (index + 1))
      match next with
      | .command index => runFrom settings fuel index
      | next => return next

/-- Works on one line after the other, and gives a status if the script says that it
is over.  With `again`, the line that is there is worked on once more. -/
def runLines (settings : Settings) : (fuel : Nat) → (again : Bool) → Editing (Option Nat)
  | 0, _ => return none
  | fuel + 1, again => do
    let line ← if again then pure (some ⟨(← get).pattern, (← get).ended⟩)
      else takeLine settings
    match line with
    | none => return none
    | some line =>
      modify fun work =>
        { work with
          pattern := line.text, ended := line.ended, replaced := again && work.replaced }
      let finishLine : Editing Unit := do
        unless settings.silent do
          printLine settings (← get).pattern
        printAppended
      match ← runFrom settings Kernel.ages 0 with
      | .command _ | .line =>
        finishLine
        if (← (get : Act _)).broken.isSome then return none else runLines settings fuel false
      | .skip =>
        printAppended
        if (← (get : Act _)).broken.isSome then return none else runLines settings fuel false
      | .restart =>
        printAppended
        runLines settings fuel true
      | .quit status =>
        finishLine
        return some status
      | .quitSilently status => return some status

/-! ### The utility -/

/-- The files that a script writes to. -/
def targetPaths (script : Script) : List Octets :=
  (script.commands.toList.filterMap fun command =>
    match command.action with
    | .write path | .writeFirst path => some path
    | .substitute substitution => substitution.path
    | _ => none).eraseDups

/-- Opens the files that a script writes to. -/
def openTargets (script : Script) : Act (List Target) := do
  (targetPaths script).filterMapM fun path => do
    if path = "/dev/stdout" then return none
    else if path = "/dev/stderr" then return some ⟨path, some 2, false⟩
    else
      match ← ask (.open (Utility.atPath path) .writing Utility.newFileMode) with
      | .ok descriptor => return some ⟨path, some descriptor, false⟩
      | .error fault =>
        failWith 4 ("couldn't open file " ++ path ++ ": " ++ fault.words)

/-- The pieces of the script that options give, or the first operand. -/
def scriptPieces (given : Utility.Given) : Act (List (Origin × List Char) × List Octets) := do
  let scripts := given.options.filter fun option => ["expression", "file"].contains option.1
  let readPiece (count : Nat) (option : String × Octets) : Act (Nat × (Origin × List Char)) := do
    if option.1 = "expression" then
      return (count + 1, (.expression (count + 1), option.2.toList))
    else
      match ← Utility.contentOf option.2 with
      | .ok bytes =>
        let text := Octets.charactersOf bytes
        let text := if text.getLast? = some '\n' then text.dropLast else text
        return (count, (.file option.2, text))
      | .error fault => failWith 4 ("couldn't open file " ++ option.2 ++ ": " ++ fault.words)
  match scripts, given.operands with
  | [], [] =>
    Utility.printError ("Usage: " ++ (← get).name ++
      " [OPTION]... \x7bscript-only-if-no-other-script\x7d [input-file]...\n")
    throw 1
  | [], script :: paths => return ([(.expression 1, script.toList)], paths)
  | options, paths =>
    let (_, pieces) ← options.foldlM (fun (count, pieces) option => do
      let (count, piece) ← readPiece count option
      return (count, pieces ++ [piece])) (0, [])
    return (pieces, paths)

/-- The state in which a script starts. -/
def Work.start (script : Script) (paths : List Octets) (targets : List Target) : Work where
  paths
  name := "-"
  descriptor := none
  lines := []
  front := []
  pattern := []
  ended := true
  hold := []
  number := 0
  appended := []
  replaced := false
  ranges := script.commands.map fun command =>
    match command.start with
    | some (.line 0) => .opened none
    | _ => .closed
  lastProgram := none
  targets
  sources := []
  owes := false

/-- Edits a file and puts the result in its place.  `copySuffix` is what a copy of the
file is named by. -/
def editInPlace (settings : Settings) (copySuffix : Octets) (path : Octets) (work : Work) :
    Act (Option Nat × Work) := do
  match ← Utility.factsOf path true with
  | .error fault =>
    Utility.warn ("can't read " ++ path ++ ": " ++ fault.words)
    Utility.setStatus 2
    return (none, work)
  | .ok facts =>
    if facts.kind ≠ .file then
      Utility.warn ("couldn't edit " ++ path ++ ": not a regular file")
      Utility.setStatus 4
      return (none, work)
    else
      Utility.flush
      let target := Utility.below (Utility.directoryName path) "sedAAAAAA"
      match ← ask (.open (Utility.atPath target) .writing 0o600),
          ← ask (.duplicateAbove 1 10) with
      | .ok descriptor, .ok saved =>
        let _ ← ask (.duplicate descriptor 1)
        let _ ← ask (.close descriptor)
        let runFile : Editing (Option Nat) := do
          if ← openNext [path] then runLines settings Kernel.ages false else return none
        let (status, work) ← runFile.run { work with number := 0, owes := false }
        -- Whatever is left of the file is written as it is.
        let (_, work) ← (openRest settings status).run work
        Utility.flush
        let _ ← ask (.duplicate saved 1)
        let _ ← ask (.close saved)
        let _ ← ask (.setMode (Utility.atPath target) facts.mode)
        unless copySuffix = "" do
          let copy := if copySuffix.toList.contains '*' then
              (copySuffix.toList.flatMap fun c =>
                if c = '*' then (Utility.lastName path).toList else [c]) |> String.ofList
            else path ++ copySuffix
          let _ ← ask (.rename (Utility.atPath path) (Utility.atPath copy))
        let _ ← ask (.rename (Utility.atPath target) (Utility.atPath path))
        return (status, { work with paths := [] })
      | .error fault, _ | _, .error fault =>
        failWith 4 ("couldn't open temporary file " ++ target ++ ": " ++ fault.words)
where
  /-- Writes the lines that are left if the script has ended early. -/
  openRest (settings : Settings) (status : Option Nat) : Editing Unit := do
    if status.isSome then passLines settings Kernel.ages
  /-- Writes all lines that are left. -/
  passLines (settings : Settings) : (fuel : Nat) → Editing Unit
    | 0 => pure ()
    | fuel + 1 => do
      if let some line ← takeLine settings then
        modify fun work => { work with ended := line.ended }
        printLine settings line.text
        passLines settings fuel

/-- Edits files one by one. -/
def editEach (edit : Octets → Work → Act (Option Nat × Work)) :
    List Octets → Work → Act (Option Nat)
  | [], _ => return none
  | path :: rest, work => do
    match ← edit path work with
    | (some status, _) => return some status
    | (none, work) => editEach edit rest work

/-- `sed`. -/
def edit (args : List Octets) : Act Unit := do
  let given ← Utility.given
    [.flag 'n' "quiet", .wordFlag "silent", .valued 'e' "expression", .valued 'f' "file",
     .flag 'E' "regexp-extended", .letterFlag 'r', ⟨some 'i', "in-place", .may⟩,
     .valued 'l' "line-length", .flag 's' "separate", .flag 'u' "unbuffered",
     .flag 'z' "null-data", .wordFlag "posix", .wordFlag "sandbox", .wordFlag "debug",
     .wordFlag "follow-symlinks", .letterFlag 'b'] args false
  let (pieces, paths) ← scriptPieces given
  match Script.read (given.has "regexp-extended" || given.has "r") pieces with
  | .error message => Utility.fail message
  | .ok script =>
    if let some label := script.missingLabel? then
      failWith 4 ("can't find label for jump to \x60" ++ label ++ "'")
    let inPlace := given.has "in-place"
    let settings : Settings := {
      script
      silent := script.silent || given.has "quiet" || given.has "silent"
      mark := if given.has "null-data" then '\x00' else '\n'
      separate := inPlace || given.has "separate"
      width := ((given.value? "line-length").bind String.toNat?).getD 70 }
    let targets ← openTargets script
    let paths := Utility.pathsOf paths
    let work := Work.start script paths targets
    let status ←
      if inPlace then
        editEach (editInPlace settings ((given.value? "in-place").getD "")) paths work
      else if settings.separate then
        editEach (fun path work => do
          (do
            if ← openNext [path] then runLines settings Kernel.ages false else return none
            : Editing (Option Nat)).run { work with number := 0 }) paths work
      else do
        let (status, _) ← (runLines settings Kernel.ages false).run work
        pure status
    if let some status := status then
      unless status = 0 do
        Utility.setStatus status

end HintFuzz.Edit
