import HintFuzz.CommandLine.Options
import HintFuzz.Hint.Signature

/-!
# Requests

What a command line asks for: one of five commands with its options, and the
paths of a configuration and of a catalog, which may stand in front of the
command or behind it.
-/

namespace HintFuzz.CommandLine

/-- The settings that a run takes from the command line instead of from its
configuration. -/
structure RunOptions where
  iterations : Option UInt64
  seed : Option UInt64
  workers : Option UInt64
  timeoutMillis : Option UInt64
  deadlineSeconds : Option UInt64
  findings : Option String
  /-- Findings stand without a second run. -/
  unconfirmed : Bool
deriving DecidableEq, Repr

/-- A command. -/
inductive Command
  /-- Takes iterations and counts what comes of them. -/
  | run (options : RunOptions)
  /-- Takes the iteration of a seed again. -/
  | replay (seed : UInt64) (hint : Option HintId)
  /-- Shows the program for a hint. -/
  | synth (hint : HintId) (seed : Option UInt64)
  /-- Tells which hints of a catalog have a program. -/
  | coverage
  /-- Shows the usual configuration. -/
  | generateConfig
deriving DecidableEq, Repr

/-- A command, and the paths that go with any command. -/
structure Request where
  config : Option String
  catalog : Option String
  command : Command
deriving DecidableEq, Repr

/-- The options that go with any command. -/
def sharedSpecs : List OptionSpec :=
  [⟨"config", some .path⟩, ⟨"catalog", some .path⟩]

/-- The names of the commands and the options of each. -/
def commandSpecs : List (String × List OptionSpec) :=
  [("run",
    [⟨"iterations", some .number⟩, ⟨"seed", some .number⟩, ⟨"workers", some .number⟩,
     ⟨"timeout-ms", some .number⟩, ⟨"deadline-secs", some .number⟩, ⟨"findings", some .path⟩,
     ⟨"no-confirm", none⟩]),
   ("replay", [⟨"seed", some .number⟩, ⟨"hint", some .number⟩]),
   ("synth", [⟨"hint", some .number⟩, ⟨"seed", some .number⟩]),
   ("coverage", []),
   ("generate-config", [])]

/-- The command of a name with its options, unless one is missing that it needs. -/
def Command.ofGiven? (name : String) (given : Given) : Option Command :=
  match name with
  | "run" =>
    some <| .run
      { iterations := given.word? "iterations"
        seed := given.word? "seed"
        workers := given.word? "workers"
        timeoutMillis := given.word? "timeout-ms"
        deadlineSeconds := given.word? "deadline-secs"
        findings := given.value? "findings"
        unconfirmed := given.has "no-confirm" }
  | "replay" => do return .replay (← given.word? "seed") (given.number? "hint")
  | "synth" => do return .synth (← given.number? "hint") (given.word? "seed")
  | "coverage" => some .coverage
  | "generate-config" => some .generateConfig
  | _ => none

/-- Help is asked for by name as well, on everything or on one command. -/
def helpOn : List String → Stop
  | [] => .help
  | [name] => if name = "help" ∨ commandSpecs.any fun spec => spec.1 = name then .help else .misuse
  | _ => .misuse

/-- The request of a command line.  Of an option that stands both in front of the
command and behind it, the one behind it counts. -/
def Request.ofArgs (args : List String) : Except Stop Request := do
  let (front, rest) ← readOptions sharedSpecs args.length [] args
  match rest with
  | [] => .error .misuse
  | "help" :: names => .error (helpOn names)
  | name :: rest =>
    match commandSpecs.find? fun spec => spec.1 = name with
    | none => .error .misuse
    | some (_, specs) =>
      let (behind, extra) ← readOptions (sharedSpecs ++ specs) rest.length [] rest
      if !extra.isEmpty then .error .misuse
      else
        match Command.ofGiven? name behind with
        | none => .error .misuse
        | some command =>
          return ⟨behind.value? "config" <|> front.value? "config",
            behind.value? "catalog" <|> front.value? "catalog", command⟩

end HintFuzz.CommandLine
