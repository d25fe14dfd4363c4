import HintFuzz.Catalog.Load
import HintFuzz.CommandLine.Request
import HintFuzz.Config.Campaign
import HintFuzz.Config.Document
import HintFuzz.Finding.Log
import HintFuzz.Kernel.Host

/-!
# Answers

What is printed for a request, and what becomes of the files, given the host that
runs the commands of its configuration.
-/

namespace HintFuzz.CommandLine

/-- What the program prints, and the code that it ends with. -/
structure Answer where
  code : UInt32
  output : String
  errors : String
deriving DecidableEq, Repr

namespace Answer

/-- A request was carried out. -/
def done (output : String) : Answer := ⟨0, output, ""⟩

/-- A request could not be carried out. -/
def failed (message : String) : Answer := ⟨1, "", s!"Error: {message}\n"⟩

/-- The answer to a command line that is no request. -/
def ofStop : Stop → Answer
  | .help => ⟨0, usage, ""⟩
  | .misuse => ⟨2, "", usage⟩
where
  /-- How the program is called. -/
  usage : String :=
    String.join ([
      "Usage: hintfuzz [--config PATH] [--catalog PATH] COMMAND",
      "",
      "Commands:",
      "  run [--iterations N] [--seed N] [--workers N] [--timeout-ms N]",
      "      [--deadline-secs N] [--findings PATH] [--no-confirm]",
      "  replay --seed N [--hint N]",
      "  synth --hint N [--seed N]",
      "  coverage",
      "  generate-config"].map (· ++ "\n"))

end Answer

/-! ### What requests need -/

/-- The wording of what is wrong with a configuration. -/
def configMessage (fault : Config.LoadFault) : String :=
  match fault with
  | .unreadable _ cause => fault.lead ++ cause.message
  | .malformed _ => fault.lead ++ "the document does not describe one"
  | .invalid _ => fault.lead

/-- The wording of what is wrong with a log. -/
def logMessage (path : String) (fault : Finding.Log.Fault) : String :=
  match fault with
  | .io cause => fault.lead path ++ cause.message
  | .parse _ => fault.lead path ++ "the line is no record"

/-- The configuration of a request. -/
def Request.loadConfig (request : Request) (files : Files) : Except String Config := do
  let config ← match request.config with
    | some path => (Config.load files path).mapError configMessage
    | none => .ok .usual
  return { config with catalog := request.catalog.getD config.catalog }

/-- The catalog of a configuration. -/
def loadCatalog (config : Config) (files : Files) : Except String Catalog :=
  (Catalog.load files config.catalog).mapError fun _ =>
    s!"Failed to load hint catalog {config.catalog}"

/-- A configuration with the settings of the command line in it. -/
def RunOptions.applyTo (options : RunOptions) (config : Config) : Config :=
  { config with
    iterations := options.iterations.getD config.iterations
    seed := options.seed <|> config.seed
    workers := options.workers.getD config.workers
    timeoutMillis := options.timeoutMillis.getD config.timeoutMillis
    deadlineSeconds := options.deadlineSeconds <|> config.deadlineSeconds
    findings := options.findings.getD config.findings
    confirmFindings := config.confirmFindings && !options.unconfirmed }

/-- A session over some files. -/
def sessionOn (files : Files) : Session Files :=
  ⟨⟨files, false⟩, []⟩

/-! ### Commands -/

/-- Runs a campaign and appends its findings to the log.  What cannot be appended
is lost without a word.  `spare` is the master seed if none is given. -/
def runCampaign (host : Host) (request : Request) (options : RunOptions) (spare : UInt64)
    (files : Files) : Except String (String × Files) := do
  let config := options.applyTo (← request.loadConfig files)
  if let some defect := config.defect? then .error defect.message
  else
    let catalog ← loadCatalog config files
    let (log, files) ← (Finding.Log.openAt files config.findings).mapError
      (logMessage config.findings)
    let master := config.seed.getD spare
    let (summary, session) := ((config.campaign host catalog).run master
      ⟨config.iterations.toNat, config.deadline⟩).run (sessionOn files)
    let files := session.log.foldl
      (fun files finding => (Finding.Log.appendTo files log finding).toOption.getD files)
      session.bench.world
    return (s!"master seed: {master}\n{summary.toJson.pretty}\n", files)

/-- The text for what became of an iteration. -/
def iterationText : Iteration → String
  | .finding finding => finding.toJson.pretty
  | .pass => "pass"
  | .inconclusive reason => "inconclusive: " ++ reason.describe
  | .skipped reason => "skipped: " ++ reason.message
  | .cancelled => "cancelled"

/-- Takes the iteration of a seed again. -/
def replay (host : Host) (request : Request) (seed : UInt64) (hint : Option HintId)
    (files : Files) : Except String (String × Files) := do
  let config ← request.loadConfig files
  let catalog ← loadCatalog config files
  let (iteration, session) :=
    ((config.campaign host catalog).iterate seed hint false).run (sessionOn files)
  return (iterationText iteration ++ "\n", session.bench.world)

/-- The line that tells what a placeholder stands for. -/
def placeholderLine (placeholder : Placeholder) : String :=
  let path := String.join (placeholder.binding.path.map ("." ++ ·))
  s!"// {Cairo.token placeholder.id} -> {placeholder.binding.root}{path}\n"

/-- The program for a hint, with the values of a seed if one is given. -/
def synth (request : Request) (hint : HintId) (seed : Option UInt64) (files : Files) :
    Except String String := do
  let catalog ← loadCatalog (← request.loadConfig files) files
  let plan ← (catalog.plan (seed.getD 0) (some hint)).mapError fun reason =>
    s!"hint {hint} cannot be synthesized: {reason.message}"
  let text ← match seed with
    | some _ => (plan.wrapper.instantiate plan.values).mapError SynthesisFault.message
    | none => .ok plan.wrapper.text
  return s!"// hint {hint}, confidence {plan.wrapper.confidence.word}\n" ++
    String.join (plan.wrapper.placeholders.map placeholderLine) ++ text

/-- A number with blanks in front, so that it takes five characters or more. -/
def padded (number : Nat) : String :=
  let digits := toString number
  String.ofList (List.replicate (5 - digits.length) ' ') ++ digits

/-- The line for a hint of a catalog. -/
def coverageLine (entry : CoverageEntry) : String :=
  match entry.result with
  | .ok confidence => s!"{padded entry.hint}  ok    {confidence.word}\n"
  | .error reason => s!"{padded entry.hint}  skip  {reason.label.name}: {reason.message}\n"

/-- Which hints of a catalog have a program. -/
def coverage (request : Request) (files : Files) : Except String String := do
  let catalog ← loadCatalog (← request.loadConfig files) files
  let entries := catalog.coverage
  let supported := entries.countP fun entry => entry.result.isOk
  return String.join (entries.map coverageLine) ++
    s!"{supported}/{entries.length} hints synthesized\n"

/-- Carries out a request. -/
def Request.carryOut (host : Host) (request : Request) (spare : UInt64) (files : Files) :
    Except String (String × Files) :=
  match request.command with
  | .run options => runCampaign host request options spare files
  | .replay seed hint => replay host request seed hint files
  | .synth hint seed => (synth request hint seed files).map (·, files)
  | .coverage => (coverage request files).map (·, files)
  | .generateConfig =>
    match Config.toText? .usual with
    | some text => .ok (text ++ "\n", files)
    | none => .error "Failed to serialize default configuration to TOML."

/-- The answer to a command line on a host, and the files after it.  `spare` is the
master seed of a run for which none is given. -/
def answerOn (host : Host) (args : List String) (spare : UInt64) (files : Files) :
    Answer × Files :=
  match Request.ofArgs args with
  | .error stop => (.ofStop stop, files)
  | .ok request =>
    match request.carryOut host spare files with
    | .ok (output, files) => (.done output, files)
    | .error message => (.failed message, files)

/-- The answer to a command line on the usual host. -/
def answer : (args : List String) → (spare : UInt64) → Files → Answer × Files :=
  answerOn .usual

end HintFuzz.CommandLine
