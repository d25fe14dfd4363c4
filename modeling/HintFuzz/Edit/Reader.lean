import HintFuzz.Edit.Script
import HintFuzz.Regex.Reader

/-!
# Reading editing scripts

A script comes in several pieces: texts that are given as arguments, and files.  A
complaint tells how far its piece was read.
-/

namespace HintFuzz.Edit

/-- Where a piece of a script comes from. -/
inductive Origin
  | expression (number : Nat)
  | file (path : Octets)

/-- What was read of a script so far. -/
structure Draft where
  rest : List Char
  /-- How many characters of the piece were read. -/
  taken : Nat
  line : Nat
  origin : Origin
  commands : Array Command
  labels : List (Octets × Nat)
  /-- The blocks that are open, with where they start. -/
  blocks : List (Nat × Origin × Nat)
  /-- The command whose text the next piece starts with. -/
  pending : Option Nat
  extended : Bool
  silent : Bool

/-- Reading a script; what comes of a fault is the complaint. -/
abbrev Reading := StateT Draft (Except Octets)

namespace Reading

/-- A complaint about a place in a piece of a script. -/
def complaint (origin : Origin) (taken line : Nat) (message : String) : Octets :=
  match origin with
  | .expression number =>
    "-e expression #" ++ toString number ++ ", char " ++ toString taken ++ ": " ++ message
  | .file path => "file " ++ path ++ " line " ++ toString line ++ ": " ++ message

/-- Breaks off. -/
def bad {α : Type} (message : String) : Reading α := do
  let draft ← get
  throw (complaint draft.origin draft.taken draft.line message)

/-- The next character; none at the end. -/
def take : Reading (Option Char) := do
  let draft ← get
  match draft.rest with
  | [] => return none
  | c :: rest =>
    set { draft with
      rest, taken := draft.taken + 1, line := if c = '\n' then draft.line + 1 else draft.line }
    return some c

/-- Gives a character back. -/
def giveBack (c : Option Char) : Reading Unit := do
  if let some c := c then
    modify fun draft =>
      { draft with
        rest := c :: draft.rest
        taken := draft.taken - 1
        line := if c = '\n' then draft.line - 1 else draft.line }

/-- Whether a character is a blank in a line. -/
def isBlank (c : Char) : Bool :=
  c = ' ' || c = '\t'

/-- Whether a character is a blank or ends a line. -/
def isSpace (c : Char) : Bool :=
  c = ' ' || ('\t' ≤ c && c ≤ '\r')

/-- Takes all characters of a kind. -/
def takeWhile (holds : Char → Bool) : Reading (List Char) := do
  let draft ← get
  let front := draft.rest.takeWhile holds
  set { draft with
    rest := draft.rest.drop front.length
    taken := draft.taken + front.length
    line := draft.line + front.count '\n' }
  return front

/-- The next character that is no blank. -/
def takeVisible : Reading (Option Char) := do
  let _ ← takeWhile isBlank
  take

/-- The number of digits, of which the first one was taken. -/
def number (first : Option Char) : Reading Nat := do
  let value (digits : List Char) : Nat :=
    digits.foldl (fun value c => value * 10 + (c.toNat - 48)) 0
  match first with
  | some c =>
    if c.isDigit then return value (c :: (← takeWhile Char.isDigit))
    else
      giveBack (some c)
      return 0
  | none => return 0

/-- Sees to it that nothing else is in a command. -/
def finishCommand : Reading Unit := do
  let c ← takeVisible
  match c with
  | none | some '\n' | some ';' => pure ()
  | some '\x7d' | some '#' => giveBack c
  | some _ => bad "extra characters after command"

/-! ### Texts with escapes -/

/-- The value of digits of a base at the front of a text, and how many there are. -/
def digitsFront (base most : Nat) (text : List Char) : Option (Char × List Char) :=
  let digit? (c : Char) : Option Nat :=
    let value :=
      if c.isDigit then some (c.toNat - 48)
      else if 'a' ≤ c.toLower ∧ c.toLower ≤ 'f' then some (c.toLower.toNat - 87)
      else none
    value.filter (· < base)
  let digits := (text.take most).takeWhile fun c => (digit? c).isSome
  if digits.isEmpty then none
  else
    let value := digits.foldl (fun value c => value * base + (digit? c).getD 0) 0
    some (Char.ofNat (value % 256), text.drop digits.length)

/-- The character that is written behind a backslash, and what stands behind. -/
def writtenCharacter? : List Char → Option (Char × List Char)
  | 'a' :: rest => some ('\x07', rest)
  | 'f' :: rest => some ('\x0c', rest)
  | 'n' :: rest => some ('\n', rest)
  | 'r' :: rest => some ('\r', rest)
  | 't' :: rest => some ('\t', rest)
  | 'v' :: rest => some ('\x0b', rest)
  | 'd' :: rest => digitsFront 10 3 rest
  | 'o' :: rest => digitsFront 8 3 rest
  | 'x' :: rest => digitsFront 16 2 rest
  | _ => none

/-- A text in which characters stand for the letters and numbers that write them.  One of
`special` that a number writes gets a backslash; other backslashes stay. -/
def written (special : List Char) : (fuel : Nat) → List Char → List Char
  | 0, text => text
  | _, [] => []
  | fuel + 1, '\\' :: rest =>
    match writtenCharacter? rest with
    | some (c, behind) =>
      (if special.contains c then ['\\', c] else [c]) ++ written special fuel behind
    | none =>
      match rest with
      | c :: rest => '\\' :: c :: written special fuel rest
      | [] => ['\\']
  | fuel + 1, c :: rest => c :: written special fuel rest

/-- A text in which every backslash is left out that stands in front of a character. -/
def withoutBackslashes : List Char → List Char
  | '\\' :: c :: rest => c :: withoutBackslashes rest
  | c :: rest => c :: withoutBackslashes rest
  | [] => []

/-- The characters behind the bracket that opens a set in a pattern, up to the one that
closes it, and what stands behind it; none if nothing closes it.  `mark` is the character
that ends the name of a class in the set. -/
def setRest : (mark : Option Char) → List Char → Option (List Char × List Char)
  | _, [] => none
  | some mark, c :: rest =>
    if c = mark ∧ rest.head? = some ']' then
      (setRest none rest.tail).map fun (inner, rest) => (c :: ']' :: inner, rest)
    else (setRest (some mark) rest).map fun (inner, rest) => (c :: inner, rest)
  | none, c :: rest =>
    if c = ']' then some ([c], rest)
    else
      let mark : Option Char :=
        if c = '[' then rest.head?.filter fun d => d = ':' || d = '.' || d = '=' else none
      match mark, rest with
      | some mark, d :: rest =>
        (setRest (some mark) rest).map fun (inner, rest) => (c :: d :: inner, rest)
      | _, 'n' :: rest =>
        if c = '\\' then (setRest none rest).map fun (inner, rest) => ('\n' :: inner, rest)
        else (setRest none ('n' :: rest)).map fun (inner, rest) => (c :: inner, rest)
      | _, rest => (setRest none rest).map fun (inner, rest) => (c :: inner, rest)
termination_by _ text => text.length

/-- A set in a pattern behind its opening bracket.  A bracket right at its start belongs
to it. -/
def takeSet : Reading (Option (List Char)) := do
  let draft ← get
  let lead : List Char := match draft.rest with
    | '^' :: ']' :: _ => ['^', ']']
    | '^' :: _ => ['^']
    | ']' :: _ => [']']
    | _ => []
  match setRest none (draft.rest.drop lead.length) with
  | none =>
    set { draft with rest := [], taken := draft.taken + draft.rest.length }
    return none
  | some (inner, rest) =>
    set { draft with rest, taken := draft.taken + (draft.rest.length - rest.length) }
    return some (lead ++ inner)

/-- A text up to a delimiter; none if there is none in the line.  A delimiter behind a
backslash stands for itself. -/
def delimited (delimiter : Char) (isPattern : Bool) :
    (fuel : Nat) → Reading (Option (List Char))
  | 0 => return none
  | fuel + 1 => do
    let c ← take
    match c with
    | none => return none
    | some c =>
      if c = delimiter then return some []
      else if c = '\n' then
        giveBack (some c)
        return none
      else if c = '\\' then
        match ← take with
        | none => return none
        | some d =>
          let front :=
            if d = delimiter ∧ (isPattern ∨ d ≠ '&') then [d]
            else if d = 'n' ∧ isPattern then ['\n']
            else if d = '\n' then ['\n']
            else ['\\', d]
          return (← delimited delimiter isPattern fuel).map (front ++ ·)
      else if c = '[' ∧ isPattern then
        match ← takeSet with
        | some inner =>
          return (← delimited delimiter isPattern fuel).map fun rest => c :: inner ++ rest
        | none => return none
      else return (← delimited delimiter isPattern fuel).map (c :: ·)

/-- A text up to a delimiter. -/
def upTo (delimiter : Char) (isPattern : Bool) : Reading (Option (List Char)) := do
  delimited delimiter isPattern ((← get).rest.length + 1)

/-! ### Patterns -/

/-- The program of a pattern; none stands for the one that was used last. -/
def patternOf (text : List Char) (fold lines : Bool) (groups : Nat) : Reading Pattern := do
  let draft ← get
  if text.isEmpty then return none
  else
    let text := written "*.[^$\\/".toList (text.length + 1) text
    match Regex.read ⟨draft.extended, true⟩ text with
    | .error .classSyntax => throw Regex.Fault.classSyntax.words
    | .error fault => bad fault.words
    | .ok regex =>
      if regex.groupCount < groups then
        bad ("invalid reference \\" ++ toString groups ++ " on \x60s' command's RHS")
      else return some (.ofRegex regex fold lines)

/-- The modifiers behind the pattern of an address. -/
def addressModifiers : (fuel : Nat) → (fold lines : Bool) → Reading (Bool × Bool)
  | 0, fold, lines => return (fold, lines)
  | fuel + 1, fold, lines => do
    let c ← takeVisible
    match c with
    | some 'I' => addressModifiers fuel true lines
    | some 'M' => addressModifiers fuel fold true
    | c =>
      giveBack c
      return (fold, lines)

/-- An address that starts with a character, if one does. -/
def address? (first : Option Char) : Reading (Option Finish) := do
  match first with
  | some '/' => pattern '/'
  | some '\\' =>
    match ← take with
    | some delimiter => pattern delimiter
    | none => bad "unterminated address regex"
  | some '$' => return some (.place .last)
  | some '+' => return some (.more (← number (← takeVisible)))
  | some '~' => return some (.multiple (← number (← takeVisible)))
  | some c =>
    if c.isDigit then
      let line ← number (some c)
      let next ← takeVisible
      if next = some '~' then
        let step ← number (← takeVisible)
        return some (.place (if step = 0 then .line line else .every line step))
      else
        giveBack next
        return some (.place (.line line))
    else return none
  | none => return none
where
  /-- An address that is a pattern. -/
  pattern (delimiter : Char) : Reading (Option Finish) := do
    match ← upTo delimiter true with
    | none => bad "unterminated address regex"
    | some text =>
      let (fold, lines) ← addressModifiers ((← get).rest.length + 1) false false
      return some (.place (.covered (← patternOf text fold lines 0)))

/-! ### Arguments of commands -/

/-- The name of a file, which is the rest of the line. -/
def fileName : Reading Octets := do
  let _ ← takeWhile isBlank
  let name ← takeWhile (· ≠ '\n')
  let _ ← take
  if name.isEmpty then bad "missing filename in r/R/w/W commands"
  else return String.ofList name

/-- A label, which ends at a blank or a semicolon. -/
def label : Reading Octets := do
  let _ ← takeWhile isBlank
  return String.ofList (← takeWhile fun c => !isSpace c && c ≠ ';')

/-- The lines of a text up to one that does not end with a backslash.  Backslashes
stay.  At the end of the piece, nothing more is told. -/
def textLines : (fuel : Nat) → Reading (List Char)
  | 0 => return []
  | fuel + 1 => do
    match ← take with
    | none => return []
    | some '\n' => return []
    | some '\\' =>
      match ← take with
      | none => return []
      | some c => return '\\' :: c :: (← textLines fuel)
    | some c => return c :: (← textLines fuel)

/-- A text as it is printed. -/
def printedText (text : List Char) : List Char :=
  let text := written ['\\'] (text.length + 1) text
  withoutBackslashes text ++ ['\n']

/-- The text of a command; none if it is left to the next piece. -/
def commandText : Reading (Option (List Char)) := do
  let length := (← get).rest.length + 1
  match ← takeVisible with
  | none => bad "expected \\ after \x60a', \x60c' or \x60i'"
  | some '\\' =>
    let blanks ← takeWhile isBlank
    match ← take with
    | none => return none
    | some '\n' => return some (printedText (← textLines length))
    | some c =>
      return some (printedText (blanks ++ c :: (← textLines length)))
  | some '\n' => bad "expected \\ after \x60a', \x60c' or \x60i'"
  | c =>
    giveBack c
    return some (printedText (← textLines length))

/-- The parts of a replacement.  `front` holds the characters of the part that is being
read, the last one first. -/
def replacementParts : (fuel : Nat) → (front : List Char) → List Char → List ReplacementPart
  | 0, _, _ => []
  | _, front, [] => textPart front
  | fuel + 1, front, '\\' :: c :: rest =>
    let part (part : ReplacementPart) : List ReplacementPart :=
      textPart front ++ part :: replacementParts fuel [] rest
    if c.isDigit then part (.group (c.toNat - 48))
    else
      match c with
      | 'U' => part (.change .upper)
      | 'L' => part (.change .lower)
      | 'E' => part (.change .keep)
      | 'u' => part (.change .upperNext)
      | 'l' => part (.change .lowerNext)
      | c => replacementParts fuel (c :: front) rest
  | fuel + 1, front, '&' :: rest => textPart front ++ .group 0 :: replacementParts fuel [] rest
  | fuel + 1, front, c :: rest => replacementParts fuel (c :: front) rest
where
  /-- The part of a text. -/
  textPart (front : List Char) : List ReplacementPart :=
    if front.isEmpty then [] else [.text front.reverse]

/-- The options of a substitution. -/
structure SubstitutionOptions where
  all : Bool
  first : Option Nat
  prints : Bool
  fold : Bool
  lines : Bool
  path : Option Octets

/-- Reads the options of a substitution. -/
def substitutionOptions : (fuel : Nat) → SubstitutionOptions → Reading SubstitutionOptions
  | 0, options => return options
  | fuel + 1, options => do
    let c ← takeVisible
    match c with
    | none | some '\n' | some ';' => return options
    | some '\x7d' | some '#' =>
      giveBack c
      return options
    | some 'i' | some 'I' => substitutionOptions fuel { options with fold := true }
    | some 'm' | some 'M' => substitutionOptions fuel { options with lines := true }
    | some 'e' => substitutionOptions fuel options
    | some 'p' =>
      if options.prints then bad "multiple \x60p' options to \x60s' command"
      else substitutionOptions fuel { options with prints := true }
    | some 'g' =>
      if options.all then bad "multiple \x60g' options to \x60s' command"
      else substitutionOptions fuel { options with all := true }
    | some 'w' => return { options with path := some (← fileName) }
    | some d =>
      if d.isDigit then
        if options.first.isSome then bad "multiple number options to \x60s' command"
        else
          let first ← number (some d)
          if first = 0 then bad "number option to \x60s' command may not be zero"
          else substitutionOptions fuel { options with first := some first }
      else bad "unknown option to \x60s'"

/-- Reads a substitution behind its letter. -/
def substitution : Reading Action := do
  let unterminated : Reading Action := bad "unterminated \x60s' command"
  match ← take with
  | none => unterminated
  | some delimiter =>
    match ← upTo delimiter true with
    | none => unterminated
    | some pattern =>
      match ← upTo delimiter false with
      | none => unterminated
      | some text =>
        let text := written ['\\', '&'] (text.length + 1) text
        let replacement := replacementParts (text.length + 1) [] text
        let groups := replacement.foldl (fun most part =>
          match part with
          | .group number => if most < number then number else most
          | _ => most) 0
        let options ← substitutionOptions ((← get).rest.length + 1)
          ⟨false, none, false, false, false, none⟩
        let pattern ← patternOf pattern options.fold options.lines groups
        return .substitute ⟨pattern, replacement, options.all, options.first.getD 1,
          options.prints, options.path⟩

/-- Reads an exchange of characters behind its letter. -/
def characterExchange : Reading Action := do
  let unterminated : Reading Action := bad "unterminated \x60y' command"
  let plain (text : List Char) : List Char :=
    withoutPairs (written ['\\'] (text.length + 1) text)
  match ← take with
  | none => unterminated
  | some delimiter =>
    match ← upTo delimiter false with
    | none => unterminated
    | some before =>
      match ← upTo delimiter false with
      | none => unterminated
      | some after =>
        let (before, after) := (plain before, plain after)
        if before.length ≠ after.length then
          bad "strings for \x60y' command are different lengths"
        else
          finishCommand
          return .exchangeCharacters (before.zip after)
where
  /-- A text in which two backslashes are one. -/
  withoutPairs : List Char → List Char
    | '\\' :: '\\' :: rest => '\\' :: withoutPairs rest
    | c :: rest => c :: withoutPairs rest
    | [] => []

/-- Reads the status of a command that ends the script, or the width of a line. -/
def numberArgument : Reading (Option Nat) := do
  let c ← takeVisible
  match c with
  | some d =>
    if d.isDigit then return some (← number (some d))
    else
      giveBack c
      return none
  | none => return none

/-! ### Commands -/

/-- The addresses of a command, whether it is for the other lines, and its letter. -/
def commandHead (first : Option Char) :
    Reading (Option Address × Option Finish × Bool × Option Char) := do
  let (start, finish, c) ← match ← address? first with
    | none => pure (none, none, first)
    | some (.more _) | some (.multiple _) =>
      bad "invalid usage of +N or ~N as first address"
    | some (.place start) => do
      let c ← takeVisible
      let (finish, c) ← if c = some ',' then do
          match ← address? (← takeVisible) with
          | none => bad "unexpected \x60,'"
          | some finish => pure (some finish, ← takeVisible)
        else pure (none, c)
      let isZero : Bool := match start with
        | .line 0 => true
        | _ => false
      let isCovered : Bool := match finish with
        | some (.place (.covered _)) => true
        | _ => false
      if isZero && !isCovered then bad "invalid usage of line address 0"
      else pure (some start, finish, c)
  if c = some '!' then
    let c ← takeVisible
    if c = some '!' then bad "multiple \x60!'s" else return (start, finish, true, c)
  else return (start, finish, false, c)

/-- Adds a command. -/
def addCommand (start : Option Address) (finish : Option Finish) (negated : Bool)
    (action : Action) : Reading Unit :=
  modify fun draft =>
    { draft with commands := draft.commands.push ⟨start, finish, negated, action⟩ }

/-- The command of a letter that takes no arguments. -/
def plainAction? (c : Char) : Option Action :=
  match c with
  | '=' => some .number
  | 'd' => some .delete
  | 'D' => some .deleteFirst
  | 'F' => some .fileName
  | 'g' => some .get
  | 'G' => some .getAppend
  | 'h' => some .hold
  | 'H' => some .holdAppend
  | 'n' => some .next
  | 'N' => some .appendNext
  | 'p' => some .print
  | 'P' => some .printFirst
  | 'x' => some .exchange
  | 'z' => some .clear
  | _ => none

/-- Closes the innermost block. -/
def closeBlock (hasAddress : Bool) : Reading Unit := do
  let draft ← get
  match draft.blocks with
  | [] => bad "unexpected \x60\x7d'"
  | (index, _) :: blocks =>
    if hasAddress then bad "\x60\x7d' doesn't want any addresses"
    else
      finishCommand
      modify fun draft =>
        { draft with
          blocks
          commands := draft.commands.modify index fun command =>
            { command with action := .block draft.commands.size } }

/-- Reads what follows the letter of a command. -/
def commandBody (start : Option Address) (finish : Option Finish) (negated : Bool)
    (letter : Option Char) : Reading Unit := do
  let add (action : Action) : Reading Unit := addCommand start finish negated action
  let withText (action : List Char → Action) : Reading Unit := do
    match ← commandText with
    | some text => add (action text)
    | none =>
      modify fun draft => { draft with pending := some draft.commands.size }
      add (action [])
  let branch (condition : BranchCondition) : Reading Unit := do
    let name ← label
    add (.branch condition name)
  match letter with
  | none => bad "missing command"
  | some '#' =>
    if start.isSome then bad "comments don't accept any addresses"
    else
      let _ ← takeWhile (· ≠ '\n')
  | some '\x7b' =>
    modify fun draft =>
      { draft with
        blocks := (draft.commands.size, draft.origin, draft.line) :: draft.blocks }
    add (.block 0)
  | some '\x7d' => closeBlock start.isSome
  | some 'a' => withText .append
  | some 'i' => withText .insert
  | some 'c' => withText .change
  | some ':' =>
    if start.isSome then bad ": doesn't want any addresses"
    else
      let name ← label
      if name = "" then bad "\":\" lacks a label"
      else
        modify fun draft =>
          { draft with labels := draft.labels ++ [(name, draft.commands.size)] }
  | some 'b' => branch .always
  | some 't' => branch .replaced
  | some 'T' => branch .notReplaced
  | some 'q' | some 'Q' =>
    if finish.isSome then bad "command only uses one address"
    else
      let status := (← numberArgument).getD 0
      finishCommand
      add (if letter = some 'q' then .quit status else .quitSilently status)
  | some 'l' | some 'L' =>
    let width ← numberArgument
    finishCommand
    add (.list width)
  | some 'r' =>
    let path ← fileName
    add (.readFile path)
  | some 'R' =>
    let path ← fileName
    add (.readLine path)
  | some 'w' =>
    let path ← fileName
    add (.write path)
  | some 'W' =>
    let path ← fileName
    add (.writeFirst path)
  | some 's' =>
    let action ← substitution
    add action
  | some 'y' =>
    let action ← characterExchange
    add action
  | some 'v' =>
    let _ ← label
  | some 'e' =>
    let _ ← takeWhile (· ≠ '\n')
  | some c =>
    match plainAction? c with
    | some action =>
      finishCommand
      add action
    | none => bad ("unknown command: \x60" ++ String.singleton c ++ "'")

/-- Reads all commands of a piece. -/
def commands : (fuel : Nat) → Reading Unit
  | 0 => pure ()
  | fuel + 1 => do
    let _ ← takeWhile fun c => isSpace c || c = ';'
    let first ← take
    if first.isSome then
      let (start, finish, negated, letter) ← commandHead first
      commandBody start finish negated letter
      commands fuel

/-- Goes on with the text of the last command of the piece before. -/
def pendingText : Reading Unit := do
  let draft ← get
  if let some index := draft.pending then
    set { draft with pending := none }
    let text := printedText (← textLines (draft.rest.length + 1))
    modify fun draft =>
      { draft with
        commands := draft.commands.modify index fun command =>
          { command with
            action := match command.action with
              | .append _ => .append text
              | .insert _ => .insert text
              | .change _ => .change text
              | action => action } }

/-- Reads a piece of a script. -/
def piece (origin : Origin) (text : List Char) (isFirst : Bool) : Reading Unit := do
  let isSilent : Bool := isFirst && match text with
    | ['#', 'n'] => true
    | '#' :: 'n' :: '\n' :: _ => true
    | _ => false
  modify fun draft =>
    { draft with rest := text, taken := 0, line := 1, origin, silent := draft.silent || isSilent }
  pendingText
  commands (text.length + 1)

end Reading

/-- The script in several pieces. -/
def Script.read (extended : Bool) (pieces : List (Origin × List Char)) : Except Octets Script := do
  let start : Draft := ⟨[], 0, 1, .expression 1, #[], [], [], none, extended, false⟩
  let readAll : Reading Unit := do
    for ((origin, text), index) in pieces.zipIdx do
      Reading.piece origin text (index = 0)
  let (_, draft) ← readAll.run start
  match draft.blocks with
  | (_, origin, line) :: _ => throw (Reading.complaint origin 0 line "unmatched \x60\x7b'")
  | [] => return ⟨draft.commands, draft.labels, draft.silent⟩

/-- A label that a script branches to and does not have. -/
def Script.missingLabel? (script : Script) : Option Octets :=
  script.commands.toList.findSome? fun command =>
    match command.action with
    | .branch _ label =>
      if label ≠ "" ∧ !(script.labels.any fun entry => entry.1 = label) then some label else none
    | _ => none

end HintFuzz.Edit
