import HintFuzz.Shell.Fields

/-!
# Options

The options of commands, which stand in front of their operands, and the options
of the shell itself, which have letters and names.
-/

namespace HintFuzz.Shell

/-! ### Options of commands -/

/-- The options at the front of arguments, with their values, and the operands
behind them.  Of the letters that a command knows, some take a value. -/
def readOptions (letters : List (Char × Bool)) : (fuel : Nat) → (pending : List Char) →
    List Octets → Act (List (Char × Octets) × List Octets)
  | 0, _, args => return ([], args)
  | fuel + 1, [], args => do
    match args with
    | [] => return ([], [])
    | arg :: rest =>
      match arg.toList with
      | ['-', '-'] => return ([], rest)
      | '-' :: c :: more => readOptions letters fuel (c :: more) rest
      | _ => return ([], arg :: rest)
  | fuel + 1, c :: more, args => do
    match letters.find? fun letter => letter.1 = c with
    | none => fail ("Illegal option -" ++ String.singleton c)
    | some (_, false) =>
      let (options, operands) ← readOptions letters fuel more args
      return ((c, "") :: options, operands)
    | some (_, true) =>
      match more, args with
      | [], [] => fail ("No arg for -" ++ String.singleton c ++ " option")
      | [], value :: args =>
        let (options, operands) ← readOptions letters fuel [] args
        return ((c, value) :: options, operands)
      | more, args =>
        let (options, operands) ← readOptions letters fuel [] args
        return ((c, String.ofList more) :: options, operands)

/-- The options and the operands of a command that knows some letters, of which
those of `valued` take a value. -/
def optionsOf (letters valued : String) (args : List Octets) :
    Act (List (Char × Octets) × List Octets) :=
  let length := args.foldl (fun length arg => length + arg.length + 2) 2
  readOptions (letters.toList.map (·, false) ++ valued.toList.map (·, true)) length [] args

/-- The number that an argument writes; one that writes none is an error. -/
def natArgument (arg : Octets) : Act Nat := do
  let digits := arg.toList
  if !digits.isEmpty ∧ digits.all Char.isDigit then
    match arg.toNat? with
    | some number => if number < 2147483648 then return number else fail ("Illegal number: " ++ arg)
    | none => fail ("Illegal number: " ++ arg)
  else fail ("Illegal number: " ++ arg)

/-! ### Options of the shell -/

/-- The options of the shell by their names, each with its letter if it has one. -/
def shellOptions : List (String × Option Char) :=
  [("errexit", some 'e'), ("noglob", some 'f'), ("ignoreeof", some 'I'), ("interactive", some 'i'),
   ("monitor", some 'm'), ("noexec", some 'n'), ("stdin", some 's'), ("xtrace", some 'x'),
   ("verbose", some 'v'), ("vi", some 'V'), ("emacs", some 'E'), ("noclobber", some 'C'),
   ("allexport", some 'a'), ("notify", some 'b'), ("nounset", some 'u'), ("privileged", some 'p'),
   ("nolog", none), ("debug", none)]

/-- Switches an option by its letter. -/
def switchOption (letter : Char) (on : Bool) : Act Unit := do
  if !optionLetters.contains letter then fail ("Illegal option -" ++ String.singleton letter)
  else if letter = 'm' ∧ on then complain "can't access tty; job control turned off"
  else
    modify fun state =>
      let others := state.options.filter fun other => other ≠ letter
      -- Of the two ways of editing lines only one is used.
      let others :=
        if on ∧ letter = 'V' then others.filter (· ≠ 'E')
        else if on ∧ letter = 'E' then others.filter (· ≠ 'V')
        else others
      { state with options := if on then letter :: others else others }

/-- Switches an option by its name. -/
def switchNamedOption (name : Octets) (on : Bool) : Act Unit := do
  match shellOptions.find? fun entry => entry.1 = name with
  | some (_, some letter) => switchOption letter on
  | some (_, none) => pure ()
  | none => fail ("Illegal option -o " ++ name)

/-- Prints all options: as a table, or as commands that set them. -/
def listOptions (asTable : Bool) : Act Unit := do
  let state ← get
  if asTable then print "Current option settings\n"
  for (name, letter) in shellOptions do
    let on := letter.any state.has
    if asTable then
      print (name ++ String.ofList (List.replicate (16 - name.length) ' ') ++
        (if on then "on" else "off") ++ "\n")
    else print ("set " ++ (if on then "-o " else "+o ") ++ name ++ "\n")

/-- What the options in front of the operands of a shell or of `set` have come
to. -/
structure Switched where
  operands : List Octets
  /-- The script is the first operand. -/
  inline : Bool
  /-- Two hyphens stand in front of the operands. -/
  ended : Bool

/-- Switches the options in an argument.  With `called`, a letter says that the
script is an operand.  The arguments behind it are those of named options. -/
def switchLetters (called on : Bool) : List Char → (args : List Octets) → Act (List Octets × Bool)
  | [], args => return (args, false)
  | c :: rest, args => do
    if c = 'c' ∧ called then
      let (args, _) ← switchLetters called on rest args
      return (args, true)
    else if c = 'l' ∧ called then switchLetters called on rest args
    else if c = 'o' then
      match args with
      | [] =>
        listOptions on
        switchLetters called on rest []
      | name :: args =>
        switchNamedOption name on
        switchLetters called on rest args
    else
      switchOption c on
      switchLetters called on rest args

/-- Switches the options at the front of arguments. -/
def switchOptions (called : Bool) : (fuel : Nat) → List Octets → Act Switched
  | 0, args => return ⟨args, false, false⟩
  | _, [] => return ⟨[], false, false⟩
  | fuel + 1, arg :: rest => do
    match arg.toList with
    | ['-'] =>
      unless called do
        modify fun state =>
          { state with options := state.options.filter fun c => c ≠ 'x' && c ≠ 'v' }
      return ⟨rest, false, false⟩
    | ['-', '-'] => return ⟨rest, false, true⟩
    | '-' :: letters => step true letters rest fuel
    | '+' :: letters => step false letters rest fuel
    | _ => return ⟨arg :: rest, false, false⟩
where
  /-- Switches the letters of one argument and goes on with the next one. -/
  step (on : Bool) (letters : List Char) (rest : List Octets) (fuel : Nat) : Act Switched := do
    let (rest, inline) ← switchLetters called on letters rest
    let switched ← switchOptions called fuel rest
    return { switched with inline := switched.inline || inline }

end HintFuzz.Shell
