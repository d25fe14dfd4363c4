/-!
# Options of a command line

Options are read from left to right up to the first argument that is none.  An
option is named in full; its value follows it as an argument of its own or behind
an equals sign.  What is wrong with an option shows as soon as it is read, so the
first fault or the first call for help decides.
-/

namespace HintFuzz.CommandLine

/-- The values that an option takes. -/
inductive ValueKind
  /-- A natural number below `2 ^ 64`. -/
  | number
  /-- A path, which is not empty. -/
  | path
deriving DecidableEq, Repr

/-- An option, by its name without the hyphens in front. -/
structure OptionSpec where
  name : String
  /-- A switch takes no value. -/
  value : Option ValueKind
deriving DecidableEq, Repr

/-- Why a command line is not carried out. -/
inductive Stop
  | help
  | misuse
deriving DecidableEq, Repr

/-- The options that are given, by name, and their values; that of a switch is
empty. -/
abbrev Given := List (String × String)

/-- The number that a text writes: digits, perhaps behind a plus sign. -/
def number? (text : String) : Option Nat :=
  let digits := match text.toList with
    | '+' :: digits => digits
    | digits => digits
  if digits.isEmpty ∨ !digits.all Char.isDigit then none
  else
    let value := digits.foldl (fun value digit => 10 * value + (digit.toNat - '0'.toNat)) 0
    if value < UInt64.size then some value else none

/-- Whether a text is a value of a kind. -/
def ValueKind.accepts : ValueKind → String → Bool
  | number, text => (number? text).isSome
  | path, text => text ≠ ""

/-- Whether an argument is not taken for a value.  A hyphen alone is a value. -/
def isDashed (arg : String) : Bool :=
  arg.toList.head? = some '-' && arg ≠ "-"

/-- The name and the attached value of an option that is named in full. -/
def named? (arg : String) : Option (String × Option String) :=
  match arg.toList with
  | '-' :: '-' :: text =>
    let name := text.takeWhile (· ≠ '=')
    let value := text.drop (name.length + 1)
    some (String.ofList name,
      if name.length < text.length then some (String.ofList value) else none)
  | _ => none

/-- An option with its value and the arguments behind them. -/
def optionValue (spec : OptionSpec) (attached : Option String) (rest : List String) :
    Except Stop (String × List String) :=
  match spec.value, attached, rest with
  | none, none, rest => .ok ("", rest)
  | none, some _, _ => .error .misuse
  | some kind, some value, rest =>
    if kind.accepts value then .ok (value, rest) else .error .misuse
  | some kind, none, value :: rest =>
    if !isDashed value && kind.accepts value then .ok (value, rest) else .error .misuse
  | some _, none, [] => .error .misuse

/-- Reads options, of which `given` have been read, and gives the arguments from
the first one that is none.  The steps are bounded by the number of arguments. -/
def readOptions (specs : List OptionSpec) : (steps : Nat) → Given → List String →
    Except Stop (Given × List String)
  | 0, given, args => .ok (given, args)
  | _, given, [] => .ok (given, [])
  | steps + 1, given, arg :: rest =>
    if !isDashed arg then .ok (given, arg :: rest)
    else if arg = "--" then if rest.isEmpty then .ok (given, []) else .error .misuse
    else
      match named? arg with
      | none => .error (if arg.startsWith "-h" then .help else .misuse)
      | some ("help", attached) => .error (if attached.isNone then .help else .misuse)
      | some (name, attached) =>
        match specs.find? fun spec => spec.name = name with
        | none => .error .misuse
        | some spec =>
          match optionValue spec attached rest with
          | .error stop => .error stop
          | .ok (value, rest) =>
            if given.any fun entry => entry.1 = name then .error .misuse
            else readOptions specs steps (given ++ [(name, value)]) rest

namespace Given

/-- The value of an option. -/
def value? (given : Given) (name : String) : Option String :=
  (given.find? fun entry => entry.1 = name).map Prod.snd

/-- The number that is the value of an option. -/
def number? (given : Given) (name : String) : Option Nat :=
  (given.value? name).bind CommandLine.number?

/-- The 64-bit number that is the value of an option. -/
def word? (given : Given) (name : String) : Option UInt64 :=
  (given.number? name).map UInt64.ofNat

/-- Whether an option is given. -/
def has (given : Given) (name : String) : Bool :=
  (given.value? name).isSome

end Given

end HintFuzz.CommandLine
