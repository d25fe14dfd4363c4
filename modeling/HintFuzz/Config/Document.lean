import HintFuzz.Config.Basic
import HintFuzz.Files.Basic
import HintFuzz.Toml.Printer
import HintFuzz.Toml.Reader

/-!
# Configurations as TOML

A document need not give every setting; what it leaves out is as usual.  It must
not give anything that is no setting.  Inside the tables of the commands and
engines, names that are not known are passed over.
-/

namespace HintFuzz.Config

/-! ### Reading -/

/-- The text of a value. -/
def text? : Toml → Option String
  | .string text => some text
  | _ => none

/-- The truth value of a value. -/
def truth? : Toml → Option Bool
  | .boolean value => some value
  | _ => none

/-- The number of a value, which has no minus. -/
def word? : Toml → Option UInt64
  | .integer value => if 0 ≤ value then some (UInt64.ofNat value.toNat) else none
  | _ => none

/-- The texts of an array. -/
def texts? : Toml → Option (List String)
  | .array items => items.mapM text?
  | _ => none

/-- The value under a name. -/
def setting? (members : List (String × Toml)) (name : String) : Option Toml :=
  (members.find? fun member => member.1 = name).map Prod.snd

/-- The values of the fields of a record: a table with their names, or an array
that starts with them in order. -/
def record? (names : List String) : Toml → Option (List (Option Toml))
  | .table members => some (names.map (setting? members))
  | .array items => some ((List.range names.length).map fun place => items[place]?)
  | _ => none

/-- A command; it need not have arguments. -/
def command? (value : Toml) : Option CommandTemplate := do
  match ← record? ["program", "args"] value with
  | [some program, none] => return ⟨← text? program, []⟩
  | [some program, some args] => return ⟨← text? program, ← texts? args⟩
  | _ => none

/-- An engine. -/
def engine? (value : Toml) : Option EngineConfig := do
  match ← record? ["name", "command"] value with
  | [some name, some command] => return ⟨← text? name, ← command? command⟩
  | _ => none

/-- A configuration with one setting more. -/
def set? (config : Config) (setting : String × Toml) : Option Config := do
  let value := setting.2
  match setting.1 with
  | "catalog" => return { config with catalog := ← text? value }
  | "findings" => return { config with findings := ← text? value }
  | "iterations" => return { config with iterations := ← word? value }
  | "seed" => return { config with seed := some (← word? value) }
  | "workers" => return { config with workers := ← word? value }
  | "timeout_ms" => return { config with timeoutMillis := ← word? value }
  | "compile_timeout_ms" => return { config with compileTimeoutMillis := ← word? value }
  | "deadline_secs" => return { config with deadlineSeconds := some (← word? value) }
  | "confirm_findings" => return { config with confirmFindings := ← truth? value }
  | "compiler" => return { config with compiler := ← command? value }
  | "engine_a" => return { config with engineA := ← engine? value }
  | "engine_b" => return { config with engineB := ← engine? value }
  | _ => none

/-- The configuration that a document gives. -/
def ofText? (text : String) : Option Config := do
  (← Toml.ofText? text).foldlM set? usual

/-- Why no usable configuration can be loaded. -/
inductive LoadFault
  | unreadable (path : String) (cause : Files.Fault)
  | malformed (path : String)
  | invalid (defect : Defect)
deriving DecidableEq, Repr

/-- The wording of a fault, up to the words of the system or of the reader. -/
def LoadFault.lead : LoadFault → String
  | unreadable path _ => s!"failed to read config {path}: "
  | malformed path => s!"failed to parse config {path}: "
  | invalid defect => defect.message

/-- A configuration that has no defect. -/
def checked (config : Config) : Except LoadFault Config :=
  match config.defect? with
  | some defect => .error (.invalid defect)
  | none => .ok config

/-- Loads the configuration at a path. -/
def load (files : Files) (path : String) : Except LoadFault Config := do
  let text ← (files.readText path).mapError (.unreadable path)
  match ofText? text with
  | none => .error (.malformed path)
  | some config => config.checked

/-! ### Writing -/

/-- The lines of a command. -/
def commandLines (command : CommandTemplate) : List Char :=
  Toml.textLine "program" command.program ++ Toml.keyLine "args" (Toml.textArray command.args)

/-- The tables of an engine. -/
def engineLines (name : String) (engine : EngineConfig) : List Char :=
  Toml.headerLine name ++ Toml.textLine "name" engine.name ++
    Toml.headerLine (name ++ ".command") ++ commandLines engine.command

/-- The line of a number, if there is one. -/
def optionalLine (key : String) : Option UInt64 → List Char
  | none => []
  | some value => Toml.numberLine key value.toNat

/-- The numbers of a configuration. -/
def numbers (config : Config) : List UInt64 :=
  [config.iterations, config.workers, config.timeoutMillis, config.compileTimeoutMillis] ++
    config.seed.toList ++ config.deadlineSeconds.toList

/-- The document of a configuration.  There is none if a number does not fit into
64 bits with a sign. -/
def toText? (config : Config) : Option String :=
  if config.numbers.any fun number => Int64.maxValue.toInt < number.toNat then none
  else
    some <| String.ofList <|
      Toml.textLine "catalog" config.catalog ++
      Toml.textLine "findings" config.findings ++
      Toml.numberLine "iterations" config.iterations.toNat ++
      optionalLine "seed" config.seed ++
      Toml.numberLine "workers" config.workers.toNat ++
      Toml.numberLine "timeout_ms" config.timeoutMillis.toNat ++
      Toml.numberLine "compile_timeout_ms" config.compileTimeoutMillis.toNat ++
      optionalLine "deadline_secs" config.deadlineSeconds ++
      Toml.truthLine "confirm_findings" config.confirmFindings ++
      Toml.headerLine "compiler" ++ commandLines config.compiler ++
      engineLines "engine_a" config.engineA ++ engineLines "engine_b" config.engineB

end HintFuzz.Config
