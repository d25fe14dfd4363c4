import HintFuzz.Text.WordQuoting
import HintFuzz.Utility.Basic

/-!
# Options of utilities

Options are letters behind a hyphen, several of which may stand together, or words
behind two hyphens, which may be cut short as long as it is clear which one is
meant.  Operands may stand among them.
-/

namespace HintFuzz.Utility

/-- Whether an option has a value. -/
inductive ValueNeed
  | no
  | must
  /-- It may be given right behind the option. -/
  | may
deriving DecidableEq

/-- An option: its letter and its word, if it has them, and whether it has a value.
It goes by its word, or by its letter if it has no word. -/
structure OptionSpec where
  letter : Option Char
  word : String
  need : ValueNeed

namespace OptionSpec

/-- An option with a letter and a word, without a value. -/
def flag (letter : Char) (word : String) : OptionSpec := ⟨some letter, word, .no⟩

/-- An option with a letter and a word, and with a value. -/
def valued (letter : Char) (word : String) : OptionSpec := ⟨some letter, word, .must⟩

/-- An option with a letter alone, without a value. -/
def letterFlag (letter : Char) : OptionSpec := ⟨some letter, "", .no⟩

/-- An option with a letter alone, and with a value. -/
def letterValued (letter : Char) : OptionSpec := ⟨some letter, "", .must⟩

/-- An option with a word alone, without a value. -/
def wordFlag (word : String) : OptionSpec := ⟨none, word, .no⟩

/-- An option with a word alone, and with a value. -/
def wordValued (word : String) : OptionSpec := ⟨none, word, .must⟩

/-- What an option goes by. -/
def key (spec : OptionSpec) : String :=
  if spec.word = "" then (spec.letter.map String.singleton).getD "" else spec.word

end OptionSpec

/-- The options and operands of a call.  Options are in the order in which they
were given. -/
structure Given where
  options : List (String × Octets)
  operands : List Octets

namespace Given

/-- Whether an option was given. -/
def has (given : Given) (key : String) : Bool :=
  given.options.any fun option => option.1 = key

/-- The value of an option, the last one if it was given several times. -/
def value? (given : Given) (key : String) : Option Octets :=
  (given.options.reverse.find? fun option => option.1 = key).map Prod.snd

/-- The last one of several options that was given. -/
def last? (given : Given) (keys : List String) : Option (String × Octets) :=
  given.options.reverse.find? fun option => keys.contains option.1

/-- All values of an option. -/
def values (given : Given) (key : String) : List Octets :=
  given.options.filterMap fun option => if option.1 = key then some option.2 else none

/-- What was given with an option in front. -/
def withOption (given : Given) (key : String) (value : Octets) : Given :=
  { given with options := (key, value) :: given.options }

/-- What was given with operands in front. -/
def withOperand (given : Given) (operand : Octets) : Given :=
  { given with operands := operand :: given.operands }

end Given

/-- The option that a word in front of a value stands for. -/
def wordOption (specs : List OptionSpec) (word : String) : Act OptionSpec := do
  match specs.find? fun spec => spec.word = word && word ≠ "" with
  | some spec => return spec
  | none =>
    match specs.filter fun spec => spec.word.startsWith word && spec.word ≠ "" with
    | [spec] => return spec
    | [] => failUsage ("unrecognized option '--" ++ word ++ "'")
    | several =>
      failUsage ("option '--" ++ word ++ "' is ambiguous; possibilities:" ++
        String.join (several.map fun spec => " '--" ++ spec.word ++ "'"))

/-- Reads options and operands.  `pending` are the letters that are left of an
argument.  With `ordered`, the first operand ends the options. -/
def readGiven (specs : List OptionSpec) (ordered : Bool) :
    (fuel : Nat) → (pending : List Char) → List Octets → Act Given
  | 0, _, args => return ⟨[], args⟩
  | _, [], [] => return ⟨[], []⟩
  | fuel + 1, [], arg :: rest => do
    match arg.toList with
    | ['-', '-'] => return ⟨[], rest⟩
    | '-' :: '-' :: text =>
      let word := text.takeWhile (· ≠ '=')
      let spec ← wordOption specs (String.ofList word)
      match text.drop word.length, spec.need, rest with
      | _ :: _, .no, _ =>
        failUsage ("option '--" ++ spec.word ++ "' doesn't allow an argument")
      | _ :: value, _, rest =>
        return (← readGiven specs ordered fuel [] rest).withOption spec.key (String.ofList value)
      | [], .must, value :: rest =>
        return (← readGiven specs ordered fuel [] rest).withOption spec.key value
      | [], .must, [] => failUsage ("option '--" ++ spec.word ++ "' requires an argument")
      | [], _, rest => return (← readGiven specs ordered fuel [] rest).withOption spec.key ""
    | '-' :: c :: letters => readGiven specs ordered fuel (c :: letters) rest
    | _ =>
      if ordered then return ⟨[], arg :: rest⟩
      else return (← readGiven specs ordered fuel [] rest).withOperand arg
  | fuel + 1, c :: letters, args => do
    match specs.find? fun spec => spec.letter = some c with
    | none => failUsage ("invalid option -- '" ++ String.singleton c ++ "'")
    | some spec =>
      match spec.need, letters, args with
      | .no, letters, args =>
        return (← readGiven specs ordered fuel letters args).withOption spec.key ""
      | .may, letters, args =>
        return (← readGiven specs ordered fuel [] args).withOption spec.key (String.ofList letters)
      | .must, [], value :: args =>
        return (← readGiven specs ordered fuel [] args).withOption spec.key value
      | .must, [], [] =>
        failUsage ("option requires an argument -- '" ++ String.singleton c ++ "'")
      | .must, letters, args =>
        return (← readGiven specs ordered fuel [] args).withOption spec.key (String.ofList letters)

/-- The options and operands of arguments. -/
def given (specs : List OptionSpec) (args : List Octets) (ordered : Bool) : Act Given :=
  readGiven specs ordered (args.foldl (fun length arg => length + arg.length + 2) 2) [] args

/-- The path of an operand as messages show it. -/
def shownPath (path : Octets) : Octets :=
  Text.shellWordIfNeeded path

/-- The words for a fault of a file. -/
def faultMessage (path : Octets) (fault : Files.Fault) : Octets :=
  shownPath path ++ ": " ++ fault.words

/-- Complains that an operand is one too many, and breaks off. -/
def failExtra {α : Type} (operand : Octets) : Act α :=
  failUsage ("extra operand " ++ Text.quotedWord operand)

/-- Complains that an operand is missing, and breaks off. -/
def failMissing {α : Type} : Act α :=
  failUsage "missing operand"

/-- A number with a unit behind it, as sizes are given. -/
def sizeOf? (text : Octets) : Option Nat :=
  let digits := text.toList.takeWhile Char.isDigit
  let unit := String.ofList (text.toList.drop digits.length)
  let powers : List Char := ['K', 'M', 'G', 'T', 'P', 'E']
  let power? (c : Char) : Option Nat :=
    let index := (powers.takeWhile (· ≠ c)).length
    if index < powers.length then some (index + 1) else none
  let factor? : Option Nat := match unit.toList with
    | [] => some 1
    | ['b'] => some 512
    | ['k', 'B'] => some 1000
    | ['k'] => some 1024
    | ['c'] => some 1
    | ['w'] => some 2
    | [c] => (power? c).map fun power => Nat.pow 1024 power
    | [c, 'B'] => (power? c).map fun power => Nat.pow 1000 power
    | [c, 'i', 'B'] => (power? c).map fun power => Nat.pow 1024 power
    | _ => none
  match factor? with
  | none => none
  | some factor =>
    let number? := if digits.isEmpty then (if unit = "" then none else some 1)
      else (String.ofList digits).toNat?
    number?.map (· * factor)

end HintFuzz.Utility
