import HintFuzz.Files.Permission
import HintFuzz.Shell.Glob
import HintFuzz.Utility.Start

/-!
# Walking through directories

`find` goes through directories and does something with what passes its tests.
-/

namespace HintFuzz.Utility

open Files (Fault)
open Kernel (ask Facts Kind)

namespace Walk

/-- What is asked about a path, or done with it. -/
inductive Step
  /-- Its name is covered by a pattern, in any case of letters if `fold`. -/
  | name (pattern : List Shell.Glob) (fold : Bool)
  /-- It is covered itself. -/
  | path (pattern : List Shell.Glob) (fold : Bool)
  | kind (kinds : List Kind)
  | empty
  /-- Its size, in units that are rounded up, is so many, more or fewer. -/
  | size (order : Ordering) (count unit : Nat)
  | mode (mode : Nat)
  | newer (time : Nat)
  | always (answer : Bool)
  | print (mark : String)
  | delete
  | prune
  | quit
  /-- A command is run with it. -/
  | run (words : List Octets)
  /-- A command is run with all of them in the end; the number tells such commands
  apart. -/
  | gather (number : Nat) (words : List Octets)

/-- An expression of steps. -/
inductive Expression
  | step (step : Step)
  | negated (expression : Expression)
  | both (first second : Expression)
  | either (first second : Expression)
  | list (first second : Expression)

/-- Whether a step does something that takes the place of printing. -/
def Step.isAction : Step → Bool
  | print _ | delete | quit | run _ | gather .. => true
  | _ => false

namespace Expression

/-- Whether a step of some kind is in an expression. -/
def has (p : Step → Bool) : Expression → Bool
  | step only => p only
  | negated expression => expression.has p
  | both first second | either first second | list first second => first.has p || second.has p

/-- The commands that are run in the end. -/
def gathered : Expression → List (Nat × List Octets)
  | step (.gather number words) => [(number, words)]
  | step _ => []
  | negated expression => expression.gathered
  | both first second | either first second | list first second =>
    first.gathered ++ second.gathered

end Expression

/-! ### Reading -/

/-- How far directories are gone through. -/
structure Bounds where
  least : Nat
  most : Option Nat
  /-- What is in a directory comes in front of it. -/
  deep : Bool
  through : Bool

/-- The state of reading an expression. -/
structure ReadState where
  args : List Octets
  bounds : Bounds

/-- Reads a part of an expression. -/
abbrev Reading := StateT ReadState Act

/-- Takes the next argument. -/
def next? : Reading (Option Octets) := do
  let state ← get
  match state.args with
  | arg :: rest =>
    set { state with args := rest }
    return some arg
  | [] => return none

/-- Complains and breaks off. -/
def bad {α : Type} (message : Octets) : Reading α :=
  (Utility.fail message : Act α)

/-- The argument of a step. -/
def needed (word : Octets) : Reading Octets := do
  match ← next? with
  | some arg => return arg
  | none => bad ("missing argument to \x60" ++ word ++ "'")

/-- The number that an argument writes. -/
def neededNumber (word : Octets) : Reading Nat := do
  let arg ← needed word
  match if arg.toList.all Char.isDigit then arg.toNat? else none with
  | some number => return number
  | none =>
    bad ("Expected a positive decimal integer argument to " ++ word ++ ", but got " ++
      Text.quotedWord arg)

/-- The kinds that letters stand for. -/
def kindsOf (text : Octets) : Reading (List Kind) :=
  (Text.stretches ',' text.toList).mapM fun letters =>
    match letters with
    | ['f'] => return .file
    | ['d'] => return .directory
    | ['l'] => return .link
    | ['p'] => return .channel
    | ['c'] => return .device
    | letters => bad ("Unknown argument to -type: " ++ String.ofList letters)

/-- The step that an argument of `-size` stands for. -/
def sizeStep (text : Octets) : Reading Step := do
  let (order, rest) : Ordering × List Char := match text.toList with
    | '+' :: rest => (.gt, rest)
    | '-' :: rest => (.lt, rest)
    | rest => (.eq, rest)
  let digits := rest.takeWhile Char.isDigit
  let unit? : Option Nat := match rest.drop digits.length with
    | [] | ['b'] => some 512
    | ['c'] => some 1
    | ['w'] => some 2
    | ['k'] => some 1024
    | ['M'] => some 1048576
    | ['G'] => some 1073741824
    | _ => none
  match unit?, (String.ofList digits).toNat? with
  | some unit, some count => return .size order count unit
  | _, _ =>
    match rest.drop digits.length with
    | c :: _ => bad ("invalid -size type \x60" ++ String.singleton c ++ "'")
    | [] => bad ("invalid argument \x60" ++ text ++ "' to \x60-size'")

/-- The words of a command, up to its end, and whether it is run once for all paths. -/
def commandWords : (fuel : Nat) → (word : Octets) → (before : List Octets) →
    Reading (List Octets × Bool)
  | 0, word, _ => bad ("missing argument to \x60" ++ word ++ "'")
  | fuel + 1, word, before => do
    let arg ← needed word
    match arg, before with
    | ";", _ => return (before.reverse, false)
    | "+", "\x7b\x7d" :: words => return (words.reverse, true)
    | _, _ => commandWords fuel word (arg :: before)

/-- The pattern of a text. -/
def patternOf (text : Octets) : List Shell.Glob := Shell.Glob.ofText text

/-- The step that a word stands for. -/
def readStep (word : Octets) : Reading Expression := do
  let bounds := (← get).bounds
  let setBounds (bounds : Bounds) : Reading Expression := do
    modify fun state => { state with bounds }
    return .step (.always true)
  match word with
  | "-name" => return .step (.name (patternOf (← needed word)) false)
  | "-iname" => return .step (.name (patternOf ((← needed word).map Char.toLower)) true)
  | "-path" | "-wholename" => return .step (.path (patternOf (← needed word)) false)
  | "-ipath" | "-iwholename" =>
    return .step (.path (patternOf ((← needed word).map Char.toLower)) true)
  | "-type" => return .step (.kind (← kindsOf (← needed word)))
  | "-empty" => return .step .empty
  | "-size" => return .step (← sizeStep (← needed word))
  | "-perm" =>
    let text ← needed word
    match Files.PermissionSpec.ofText? text with
    | some spec => return .step (.mode (spec.apply 0 0 false))
    | none => bad ("invalid mode " ++ Text.quotedWord text)
  | "-newer" =>
    let path ← needed word
    match ← (factsOf path true : Act _) with
    | .ok facts => return .step (.newer facts.modified)
    | .error fault => bad (Text.quotedWord path ++ ": " ++ fault.words)
  | "-true" => return .step (.always true)
  | "-false" => return .step (.always false)
  | "-print" => return .step (.print "\n")
  | "-print0" => return .step (.print "\x00")
  | "-delete" =>
    let _ ← setBounds { bounds with deep := true }
    return .step .delete
  | "-prune" => return .step .prune
  | "-quit" => return .step .quit
  | "-depth" => setBounds { bounds with deep := true }
  | "-follow" => setBounds { bounds with through := true }
  | "-xdev" | "-mount" => return .step (.always true)
  | "-maxdepth" =>
    let most ← neededNumber word
    setBounds { bounds with most := some most }
  | "-mindepth" =>
    let least ← neededNumber word
    setBounds { bounds with least }
  | "-exec" =>
    let (words, once) ← commandWords ((← get).args.length + 1) word []
    if words.isEmpty then bad ("missing argument to \x60" ++ word ++ "'")
    else
      let number := (← get).args.length
      return .step (if once then .gather number words else .run words)
  | word =>
    if word.startsWith "-" then bad ("unknown predicate \x60" ++ word ++ "'")
    else bad ("paths must precede expression: \x60" ++ word ++ "'")

mutual

/-- Steps of which the last ones count alone, or of which one has to pass. -/
def readLoose (fuel : Nat) : Reading Expression := do
  match fuel with
  | 0 => bad "expression is too long"
  | fuel + 1 =>
    let first ← readTight fuel
    match (← get).args with
    | word :: rest =>
      if word = "-o" ∨ word = "-or" then
        modify fun state => { state with args := rest }
        if rest.isEmpty then bad ("expected an expression after " ++ Text.quotedWord word)
        else return .either first (← readLoose fuel)
      else if word = "," then
        modify fun state => { state with args := rest }
        return .list first (← readLoose fuel)
      else return first
    | [] => return first

/-- Steps that all have to pass. -/
def readTight (fuel : Nat) : Reading Expression := do
  match fuel with
  | 0 => bad "expression is too long"
  | fuel + 1 =>
    let first ← readOne fuel
    match (← get).args with
    | word :: rest =>
      if word = "-a" ∨ word = "-and" then
        modify fun state => { state with args := rest }
        if rest.isEmpty then bad ("expected an expression after " ++ Text.quotedWord word)
        else return .both first (← readTight fuel)
      else if ["-o", "-or", ",", ")"].contains word then return first
      else return .both first (← readTight fuel)
    | [] => return first

/-- One step, or an expression in parentheses. -/
def readOne (fuel : Nat) : Reading Expression := do
  match fuel with
  | 0 => bad "expression is too long"
  | fuel + 1 =>
    match ← next? with
    | none => bad "expected an expression"
    | some "!" | some "-not" =>
      if (← get).args.isEmpty then bad "expected an expression after '!'"
      else return .negated (← readOne fuel)
    | some "(" =>
      let inner ← readLoose fuel
      match ← next? with
      | some ")" => return inner
      | _ =>
        bad ("invalid expression; I was expecting to find a ')' somewhere but did not see one.")
    | some word =>
      if ["-a", "-and", "-o", "-or"].contains word then
        bad ("invalid expression; you have used a binary operator " ++ Text.quotedWord word ++
          " with nothing before it.")
      else readStep word

end

/-! ### Walking -/

/-- What is known while walking. -/
structure State where
  /-- The directory is not gone into. -/
  pruned : Bool
  finished : Bool
  /-- The paths for commands that are run in the end, the last one first. -/
  gathered : List (Nat × Octets)

/-- Walks. -/
abbrev Walking := StateT State Act

/-- The words of a command with a path in them. -/
def wordsWith (path : Octets) (words : List Octets) : List Octets :=
  words.map fun word =>
    String.ofList (replacedText ['\x7b', '\x7d'] path.toList (word.length + 1) word.toList)

/-- Runs a command, and tells whether it succeeds. -/
def runWords (words : List Octets) : Act Bool := do
  let child ← startChild (pure ()) words Text.quotedWord
  return match ← awaitUpTo child none Kernel.ages with
    | some (.exited 0) => true
    | _ => false

/-- Carries out a step for a path. -/
def Step.apply (path : Octets) (facts : Facts) : Step → Walking Bool
  | name pattern fold =>
    let name := lastName path
    return Shell.Glob.covers pattern (if fold then name.map Char.toLower else name).toList
  | Step.path pattern fold =>
    return Shell.Glob.covers pattern (if fold then path.map Char.toLower else path).toList
  | kind kinds => return kinds.contains facts.kind
  | empty => do
    if facts.kind = .directory then
      return match ← (ask (.list (atPath path)) : Act _) with
        | .ok names => names.isEmpty
        | .error _ => false
    else return facts.kind = .file && facts.size = 0
  | size order count unit =>
    let size := if facts.kind = .directory then 4096 else facts.size
    return compare ((size + unit - 1) / unit) count = order
  | mode bits => return facts.mode = bits
  | newer time => return time < facts.modified
  | always answer => return answer
  | print mark => do
    Utility.print (path ++ mark)
    return true
  | delete => do
    if path = "." then return true
    else
      let removed ← if facts.kind = .directory then (ask (.removeDirectory (atPath path)) : Act _)
        else (ask (.remove (atPath path)) : Act _)
      match removed with
      | .ok _ => return true
      | .error fault =>
        Utility.complain ("cannot delete " ++ Text.quotedWord path ++ ": " ++ fault.words)
        return false
  | prune => do
    modify fun state => { state with pruned := true }
    return true
  | quit => do
    modify fun state => { state with finished := true }
    return true
  | run words => (runWords (wordsWith path words) : Act _)
  | gather number _ => do
    modify fun state => { state with gathered := (number, path) :: state.gathered }
    return true

/-- Carries out an expression for a path. -/
def Expression.apply (path : Octets) (facts : Facts) : Expression → Walking Bool
  | step only => do
    if (← get).finished then return false else only.apply path facts
  | negated expression => return !(← expression.apply path facts)
  | both first second => do
    if ← first.apply path facts then second.apply path facts else return false
  | either first second => do
    if ← first.apply path facts then return true else second.apply path facts
  | list first second => do
    let _ ← first.apply path facts
    second.apply path facts

/-- Goes through a path and what is below it. -/
def walk (bounds : Bounds) (expression : Expression) :
    (fuel : Nat) → (depth : Nat) → (path : Octets) → Walking Unit
  | 0, _, _ => pure ()
  | fuel + 1, depth, path => do
    if (← get).finished then return
    let found ← (factsOf path bounds.through : Act _)
    let found ← match found with
      | .error _ => (factsOf path false : Act _)
      | found => pure found
    match found with
    | .error fault => Utility.complain (Text.quotedWord path ++ ": " ++ fault.words)
    | .ok facts =>
      modify fun state => { state with pruned := false }
      let visit : Walking Unit := do
        if bounds.least ≤ depth then
          let _ ← expression.apply path facts
      unless bounds.deep do visit
      let isOpen := facts.kind = .directory && bounds.most.all fun most => depth < most
      if isOpen && !(← get).pruned then
        match ← (ask (.list (atPath path)) : Act _) with
        | .error fault => Utility.complain (Text.quotedWord path ++ ": " ++ fault.words)
        | .ok names =>
          for name in names do
            walk bounds expression fuel (depth + 1) (below path (Octets.ofText name))
      if bounds.deep then visit

end Walk

/-- `find`: walks through directories. -/
def find (args : List Octets) : Act Unit := do
  let options := args.takeWhile fun arg => arg = "-L" || arg = "-H" || arg = "-P"
  let rest := args.drop options.length
  let isPath (arg : Octets) : Bool :=
    !arg.startsWith "-" && !(["(", "!"].contains arg) || arg = "-"
  let paths := rest.takeWhile isPath
  let args := rest.drop paths.length
  let through := options.getLast? = some "-L"
  let start : Walk.ReadState := ⟨args, ⟨0, none, false, through⟩⟩
  let (expression, state) ←
    if args.isEmpty then pure (.step (.print "\n"), start)
    else (Walk.readLoose (8 * args.length + 8)).run start
  match state.args with
  | arg :: _ =>
    fail ("invalid expression; you have too many " ++ Text.quotedWord arg)
  | [] =>
    let expression :=
      if expression.has Walk.Step.isAction then expression
      else .both expression (.step (.print "\n"))
    let walkAll : Walk.Walking Unit := do
      for path in if paths.isEmpty then ["."] else paths do
        Walk.walk state.bounds expression 1000 0 path
    let ((), state) ← walkAll.run ⟨false, false, []⟩
    for (number, words) in expression.gathered do
      let found := (state.gathered.reverse.filter fun entry => entry.1 = number).map Prod.snd
      unless found.isEmpty do
        unless ← Walk.runWords (words ++ found) do setStatus 1

end HintFuzz.Utility
