import HintFuzz.Command.Report
import HintFuzz.Command.Template
import HintFuzz.Engine.Duration
import HintFuzz.Files.Change

/-!
# Runs of commands

A command runs in a directory of its own, which holds the file that it is to
read and takes the file that it is to write.  What it prints goes into two
further files there.  Afterwards the directory is gone.

The command itself is run by a host, of which nothing is known but what it makes
of a tree of files.
-/

namespace HintFuzz

/-- Why a command cannot be started. -/
inductive LaunchFault
  | system (cause : Files.Fault)
  /-- The name of the program or an argument holds a zero character. -/
  | zeroCharacter
deriving DecidableEq, Repr

/-- The wording of a fault. -/
def LaunchFault.message : LaunchFault → String
  | system cause => cause.message
  | zeroCharacter => "nul byte found in provided data"

/-- How a command that came to an end has ended. -/
inductive ExitStatus
  | exited (code : Nat)
  | killed
deriving DecidableEq, Repr

namespace ExitStatus

/-- Whether the command says that all went well. -/
def isSuccess (status : ExitStatus) : Bool :=
  status = exited 0

/-- The wording of a status. -/
def describe : ExitStatus → String
  | exited code => s!"exit status {code}"
  | killed => "killed by signal"

end ExitStatus

/-- A program to start: what it is called and given, the directory that it is
started in, what it reads, where its output and its errors go, and for how long
it may run. -/
structure Launch where
  program : String
  args : List String
  directory : NodeId
  input : NodeId
  output : NodeId
  errors : NodeId
  limit : Duration

/-- A system that runs programs. -/
structure Host where
  /-- How the program has ended, if it has in time, and the files after it, unless
  it cannot be started. -/
  run : Launch → Files → Except Files.Fault (Option ExitStatus × Files)

/-- What came of starting a command. -/
inductive CommandRun.Ending
  | finished (status : ExitStatus) (report : String)
  /-- The command was still running when its time was up. -/
  | late
deriving DecidableEq, Repr

/-- The run of a command, and what it left in the file that it was to write. -/
structure CommandRun where
  ending : Except LaunchFault CommandRun.Ending
  result : Except Files.Fault Bytes

namespace CommandTemplate

/-- The path of the directory of a run.  Runs follow one another, so one is enough. -/
def runPath : String := "/tmp/.tmpAAAAAA"

/-- The path of a file of a run. -/
def pathIn (name : String) : String := runPath ++ "/" ++ name

/-- The file that takes what a command writes to its output. -/
def outputName : String := "stdout.log"

/-- The file that takes what a command writes to its output for errors. -/
def errorsName : String := "stderr.log"

/-- The files with the directory of a run, in which the given file and the two for
what is printed stand. -/
def prepared (files : Files) (givenName : String) (given : Bytes) : Files :=
  files
    |>.withDirectory runPath
    |>.withFile (pathIn givenName) given
    |>.withFile (pathIn outputName) []
    |>.withFile (pathIn errorsName) []

/-- What a command is started as among the files of its run.  There is nothing for
it to read. -/
def launch (template : CommandTemplate) (limit : Duration) (files : Files) : Launch where
  program := template.program
  args := template.expand runPath
  directory := node runPath
  input := node "/dev/null"
  output := node (pathIn outputName)
  errors := node (pathIn errorsName)
  limit := limit
where
  /-- What a path leads to. -/
  node (path : String) : NodeId := (files.locate Files.root path true).toOption.getD Files.root

/-- The text of a file of a run; what is no text counts as nothing. -/
def logText (files : Files) (name : String) : String :=
  (files.readText (pathIn name)).toOption.getD ""

/-- How a command has ended that left files, if it has ended in time. -/
def endingOf (files : Files) : Option ExitStatus → CommandRun.Ending
  | none => .late
  | some status =>
    .finished status (Report.ofOutput (logText files errorsName) (logText files outputName))

/-- The tree without what a path of directories leads to. -/
def without (files : Files) (path : String) : Files :=
  match files.lastName Files.root path with
  | .ok (directory, name) => files.leave directory name
  | .error _ => files

/-- Starts a program on a host.  No host is given a name or an argument with a zero
character. -/
def start (host : Host) (launch : Launch) (files : Files) :
    Except LaunchFault (Option ExitStatus × Files) :=
  if (launch.program :: launch.args).any fun text => text.toList.contains '\x00' then
    .error .zeroCharacter
  else (host.run launch files).mapError .system

/-- Runs a command on a given file, for no longer than a limit. -/
def run (template : CommandTemplate) (host : Host) (givenName : String) (given : Bytes)
    (resultName : String) (limit : Duration) (files : Files) : CommandRun × Files :=
  let inside := prepared files givenName given
  match start host (template.launch limit inside) inside with
  | .error fault => (⟨.error fault, .error .notFound⟩, files)
  | .ok (status, left) =>
    (⟨.ok (endingOf left status), left.read (pathIn resultName)⟩, without left runPath)

end CommandTemplate

end HintFuzz
