import HintFuzz.Command.Process
import HintFuzz.Engine.Outcome
import HintFuzz.Memory.Dump

/-!
# Engines and compilers that are commands

An engine is a command that reads an artifact and dumps its memory, a compiler
one that reads a program and writes an artifact.  Both are run by a host, whose
files are the world around them.
-/

namespace HintFuzz

/-- The class of a failed run.  A run that was killed and does not say why has
crashed. -/
def ErrorClass.ofReport (status : ExitStatus) (report : String) : ErrorClass :=
  match classify report with
  | unclassified => if status = .killed then crash else unclassified
  | errorClass => errorClass

/-- The outcome of an engine that has ended well, by the memory that it dumped. -/
def Outcome.ofDump : Except Files.Fault Bytes → Outcome
  | .error fault =>
    .failed .crash s!"engine exited cleanly without a memory dump: {fault.message}"
  | .ok bytes =>
    match Dump.decode bytes with
    | .ok memory => .finished memory
    | .error fault => .failed .crash fault.message

/-- The outcome of the run of an engine. -/
def Outcome.ofRun (program : String) (limit : Duration) (run : CommandRun) : Outcome :=
  match run.ending with
  | .error fault => .failed .unavailable s!"could not run `{program}`: {fault.message}"
  | .ok .late => .failed .timeout s!"no result within {limit.text}"
  | .ok (.finished status report) =>
    if status.isSuccess then .ofDump run.result
    else .failed (.ofReport status report) s!"{status.describe}: {report}"

/-- The engine that a command is on a host. -/
def Engine.onHost (host : Host) (name : String) (command : CommandTemplate) : Engine Files where
  name
  run artifact limit := fun bench =>
    let (run, world) := command.run host CommandTemplate.artifactName artifact.bytes
      CommandTemplate.memoryName limit bench.world
    (.ofRun command.program limit run, { bench with world })

/-- The artifact that the run of a compiler gives. -/
def Artifact.ofRun (limit : Duration) (run : CommandRun) : Except CompileFault Artifact :=
  match run.ending with
  | .error fault => .error (.unreachable fault.message)
  | .ok .late => .error (.timeout limit)
  | .ok (.finished status report) =>
    if status.isSuccess then
      match run.result with
      | .ok bytes => .ok ⟨bytes⟩
      | .error fault => .error (.unreachable fault.message)
    else .error (.rejected s!"{status.describe}: {report}")

/-- The compiler that a command is on a host. -/
def Compiler.onHost (host : Host) (command : CommandTemplate) : Compiler Files where
  compile source limit := fun bench =>
    let (run, world) := command.run host CommandTemplate.sourceName (Text.bytes source)
      CommandTemplate.artifactName limit bench.world
    (Artifact.ofRun limit run, { bench with world })

end HintFuzz
