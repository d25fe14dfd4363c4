import HintFuzz.Edit.Run
import HintFuzz.Engine.External
import HintFuzz.Kernel.Run
import HintFuzz.Shell.Program
import HintFuzz.Utility.Coding
import HintFuzz.Utility.Columns
import HintFuzz.Utility.Copy
import HintFuzz.Utility.Count
import HintFuzz.Utility.Date
import HintFuzz.Utility.Difference
import HintFuzz.Utility.Dump
import HintFuzz.Utility.Exchange
import HintFuzz.Utility.Expression
import HintFuzz.Utility.Host
import HintFuzz.Utility.Listing
import HintFuzz.Utility.Numbers
import HintFuzz.Utility.Order
import HintFuzz.Utility.Paths
import HintFuzz.Utility.Removal
import HintFuzz.Utility.Search
import HintFuzz.Utility.Start
import HintFuzz.Utility.Stream
import HintFuzz.Utility.Walk
import HintFuzz.Utility.Words

/-!
# The usual host

A host on which a kernel runs the shells and the utilities, and the engines and
compilers that commands are there.  What is proved of engines and compilers is
proved for any of them, so nothing rests on what the programs of this host do.
-/

namespace HintFuzz

open Utility (program)

/-- The programs of the usual host by their names. -/
def Kernel.programs : Kernel.Programs
  | "sh" | "dash" | "bash" => some Shell.program
  | "cat" => some (program 1 Utility.concatenate)
  | "tee" => some (program 1 Utility.branchOut)
  | "head" => some (program 1 Utility.head)
  | "tail" => some (program 1 Utility.tail)
  | "yes" => some (program 1 Utility.affirm)
  | "dd" => some (program 1 Utility.copyByBlocks)
  | "cp" => some (program 1 Utility.copy)
  | "mv" => some (program 1 Utility.move)
  | "ln" => some (program 1 Utility.makeLinks)
  | "rm" => some (program 1 Utility.remove)
  | "unlink" => some (program 1 Utility.unlink)
  | "rmdir" => some (program 1 Utility.removeEmpty)
  | "mkdir" => some (program 1 Utility.makeDirectories)
  | "mkfifo" => some (program 1 Utility.makeChannels)
  | "touch" => some (program 1 Utility.touch)
  | "mktemp" => some (program 1 Utility.makeTemporary)
  | "chmod" => some (program 1 Utility.setModes)
  | "truncate" => some (program 1 Utility.cutToSize)
  | "wc" => some (program 1 Utility.count)
  | "tr" => some (program 1 Utility.exchange)
  | "cut" => some (program 1 Utility.cutParts)
  | "paste" => some (program 1 Utility.paste)
  | "fold" => some (program 1 Utility.foldLines)
  | "expand" => some (program 1 Utility.expandTabs)
  | "nl" => some (program 1 Utility.numberLines)
  | "rev" => some (program 1 Utility.turnLines)
  | "tac" => some (program 1 Utility.turnFiles)
  | "sort" => some (program 2 Utility.sortLines)
  | "uniq" => some (program 1 Utility.dropRepeats)
  | "comm" => some (program 1 Utility.compareFiles)
  | "seq" => some (program 1 Utility.countUp)
  | "factor" => some (program 1 Utility.takeApart)
  | "grep" => some (program 2 (Utility.search none))
  | "egrep" => some (program 2 (Utility.search (some "extended-regexp")))
  | "fgrep" => some (program 2 (Utility.search (some "fixed-strings")))
  | "sed" => some (program 1 Edit.edit)
  | "true" => some (program 1 Utility.succeed)
  | "false" => some (program 1 Utility.refuse)
  | "echo" => some (program 1 Utility.say)
  | "printf" => some (program 1 Utility.printFormatted)
  | "test" | "[" => some (program 2 Utility.judge)
  | "basename" => some (program 1 Utility.lastNames)
  | "dirname" => some (program 1 Utility.directoryNames)
  | "sleep" => some (program 1 Utility.pause)
  | "expr" => some (program 2 Utility.workOut)
  | "pwd" => some (program 1 Utility.showDirectory)
  | "readlink" => some (program 1 Utility.showLinks)
  | "realpath" => some (program 1 Utility.showPaths)
  | "env" => some (program 125 Utility.withEnvironment)
  | "printenv" => some (program 2 Utility.showEnvironment)
  | "nohup" => some (program 125 Utility.withoutHangup)
  | "nice" => some (program 125 Utility.withNiceness)
  | "setsid" => some (program 1 (Utility.runPlainly [.flag 'w' "wait", .flag 'f' "fork"]))
  | "stdbuf" =>
    some (program 125 (Utility.runPlainly
      [.valued 'i' "input", .valued 'o' "output", .valued 'e' "error"]))
  | "timeout" => some (program 125 Utility.limitTime)
  | "xargs" => some (program 1 Utility.runForItems)
  | "kill" => some (program 1 Utility.sendSignals)
  | "ls" | "dir" | "vdir" => some (program 2 Utility.list)
  | "stat" => some (program 1 Utility.tellFacts)
  | "find" => some (program 1 Utility.find)
  | "od" => some (program 1 Utility.dump)
  | "base64" => some (program 1 (Utility.encodeLetters .sixtyFour))
  | "base32" => some (program 1 (Utility.encodeLetters .thirtyTwo))
  | "sha256sum" => some (program 1 Utility.showDigests)
  | "cksum" => some (program 1 Utility.showSums)
  | "cmp" => some (program 2 Utility.compareBytes)
  | "diff" => some (program 2 Utility.compareLines)
  | "id" => some (program 1 Utility.tellUser)
  | "whoami" => some (program 1 Utility.tellName)
  | "groups" => some (program 1 Utility.tellGroups)
  | "logname" => some (program 1 Utility.tellLogin)
  | "tty" => some (program 1 Utility.tellTerminal)
  | "uname" => some (program 1 Utility.tellHost)
  | "arch" => some (program 1 Utility.tellMachine)
  | "hostname" => some (program 1 Utility.tellHostName)
  | "nproc" => some (program 1 Utility.tellProcessors)
  | "date" => some (program 1 Utility.showDate)
  | "sync" => some (program 1 Utility.settle)
  | "which" => some (program 2 Utility.tellPlaces)
  | _ => none

/-- How a process has ended for the one that has started it. -/
def ExitStatus.ofEnding : Kernel.Ending → ExitStatus
  | .exited code => .exited code
  | .killed _ => .killed

/-- The host on which a kernel runs the usual programs. -/
def Host.usual : Host where
  run launch files :=
    match Kernel.launch Kernel.programs files launch.directory launch.program
        ((launch.program :: launch.args).map Octets.ofText) with
    | .error fault => .error fault
    | .ok process =>
      let outcome := Kernel.run Kernel.programs files launch.directory process
        [(launch.input, .reading), (launch.output, .writing), (launch.errors, .writing)]
        launch.limit.nanoseconds
      .ok (outcome.ending.map .ofEnding, outcome.files)

/-- The engine that a command is on the usual host. -/
def Engine.ofCommand (name : String) (command : CommandTemplate) : Engine Files :=
  .onHost .usual name command

/-- The compiler that a command is on the usual host. -/
def Compiler.ofCommand (command : CommandTemplate) : Compiler Files :=
  .onHost .usual command

end HintFuzz
