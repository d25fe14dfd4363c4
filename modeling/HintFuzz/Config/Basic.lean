import HintFuzz.Command.Template
import HintFuzz.Engine.Duration
import HintFuzz.Text.Blank

/-!
# Configurations

What a campaign is run with: the catalog, the log, the limits and the commands
of the compiler and of the two engines.
-/

namespace HintFuzz

/-- The name of an engine and the command that runs it. -/
structure EngineConfig where
  name : String
  command : CommandTemplate
deriving DecidableEq, Repr

/-- The settings of a campaign. -/
structure Config where
  /-- The path of a whitelist file or of a directory of such files. -/
  catalog : String
  /-- The path of the findings log. -/
  findings : String
  iterations : UInt64
  /-- The master seed; one is made up if there is none. -/
  seed : Option UInt64
  /-- How many iterations may run at once; 0 leaves that open. -/
  workers : UInt64
  /-- The limit of one engine run. -/
  timeoutMillis : UInt64
  compileTimeoutMillis : UInt64
  /-- The limit of the whole run. -/
  deadlineSeconds : Option UInt64
  /-- Run both engines again before a finding stands. -/
  confirmFindings : Bool
  compiler : CommandTemplate
  engineA : EngineConfig
  engineB : EngineConfig
deriving DecidableEq, Repr

namespace Config

/-- The configuration that is used where nothing is said. -/
def usual : Config where
  catalog := "hint_whitelist"
  findings := "findings.jsonl"
  iterations := 1000
  seed := none
  workers := 0
  timeoutMillis := 30000
  compileTimeoutMillis := 60000
  deadlineSeconds := none
  confirmFindings := true
  compiler := ⟨"cairo-compile", ["\x7bsource\x7d", "--output", "\x7bartifact\x7d"]⟩
  engineA :=
    ⟨"cairo-lang",
     ⟨"cairo-run",
      ["--program", "\x7bartifact\x7d", "--memory_file", "\x7bmemory\x7d", "--layout",
       "all_cairo"]⟩⟩
  engineB :=
    ⟨"cairo-vm",
     ⟨"cairo-vm-cli",
      ["\x7bartifact\x7d", "--memory_file", "\x7bmemory\x7d", "--layout", "all_cairo"]⟩⟩

/-- Why a configuration cannot be used. -/
inductive Defect
  | noTime
  /-- The command of a part names no program. -/
  | emptyProgram (part : String)
  | sameName (name : String)
deriving DecidableEq, Repr

/-- The wording of a defect. -/
def Defect.message : Defect → String
  | noTime => "invalid config: timeouts must be positive"
  | emptyProgram part => s!"invalid config: {part} has an empty program"
  | sameName name => s!"invalid config: both engines are named `{name}`"

/-- The commands of a configuration and the parts that they belong to. -/
def commands (config : Config) : List (String × CommandTemplate) :=
  [("compiler", config.compiler), ("engine_a", config.engineA.command),
   ("engine_b", config.engineB.command)]

/-- The first defect of a configuration. -/
def defect? (config : Config) : Option Defect :=
  if config.timeoutMillis = 0 ∨ config.compileTimeoutMillis = 0 then some .noTime
  else
    match config.commands.find? fun command => Text.isBlank command.2.program with
    | some (part, _) => some (.emptyProgram part)
    | none =>
      if config.engineA.name = config.engineB.name then some (.sameName config.engineA.name)
      else none

/-- The limit of one engine run. -/
def timeout (config : Config) : Duration :=
  .ofMillis config.timeoutMillis.toNat

/-- The limit of one compilation. -/
def compileTimeout (config : Config) : Duration :=
  .ofMillis config.compileTimeoutMillis.toNat

/-- The limit of the whole run. -/
def deadline (config : Config) : Option Duration :=
  config.deadlineSeconds.map fun seconds => .ofSeconds seconds.toNat

end Config

end HintFuzz
