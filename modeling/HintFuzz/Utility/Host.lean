import HintFuzz.Utility.Options

/-!
# The machine and its users

Utilities that tell who runs them, where, and when.
-/

namespace HintFuzz.Utility

open Kernel (ask)

/-- `id`: tells who runs it. -/
def tellUser (args : List Octets) : Act Unit := do
  let given ← given
    [.flag 'u' "user", .flag 'g' "group", .flag 'G' "groups", .flag 'n' "name",
     .flag 'r' "real", .flag 'z' "zero", .letterFlag 'a'] args false
  match given.operands.filter (· ≠ "root") with
  | name :: _ => complain (Text.quotedWord name ++ ": no such user")
  | [] =>
    let isOne := given.has "user" || given.has "group" || given.has "groups"
    if !isOne ∧ (given.has "name" ∨ given.has "real") then
      fail "cannot print only names or real IDs in default format"
    else if isOne then printLine (if given.has "name" then "root" else "0")
    else printLine "uid=0(root) gid=0(root) groups=0(root)"

/-- `whoami`: tells the name of the user. -/
def tellName (args : List Octets) : Act Unit := do
  match (← given [] args false).operands with
  | extra :: _ => failExtra extra
  | [] => printLine "root"

/-- `groups`: tells the groups of users. -/
def tellGroups (args : List Octets) : Act Unit := do
  match (← given [] args false).operands with
  | [] => printLine "root"
  | users =>
    for user in users do
      if user = "root" then printLine "root : root"
      else complain (Text.quotedWord user ++ ": no such user")

/-- `logname`: tells the name that the user has logged in by. -/
def tellLogin (args : List Octets) : Act Unit := do
  match (← given [] args false).operands with
  | extra :: _ => failExtra extra
  | [] => fail "no login name"

/-- `tty`: tells the terminal that is the input. -/
def tellTerminal (args : List Octets) : Act Unit := do
  let given ← given [.flag 's' "silent", .wordFlag "quiet"] args false
  match given.operands with
  | extra :: _ =>
    modify fun tool => { tool with failure := 2 }
    failExtra extra
  | [] =>
    unless given.has "silent" || given.has "quiet" do printLine "not a tty"
    setStatus 1

/-- What is known about the machine, by its option. -/
def hostFacts : List (Char × String × String) :=
  [('s', "kernel-name", "Linux"), ('n', "nodename", "localhost"),
   ('r', "kernel-release", "6.1.0"), ('v', "kernel-version", "#1 SMP"),
   ('m', "machine", "x86_64"), ('o', "operating-system", "GNU/Linux")]

/-- `uname`: tells what is known about the machine. -/
def tellHost (args : List Octets) : Act Unit := do
  let given ← given
    ([.flag 'a' "all", .flag 'p' "processor", .flag 'i' "hardware-platform"] ++
      hostFacts.map fun fact => .flag fact.1 fact.2.1) args false
  match given.operands with
  | extra :: _ => failExtra extra
  | [] =>
    let chosen := hostFacts.filter fun fact => given.has "all" || given.has fact.2.1
    let unknown := ["processor", "hardware-platform"].filter given.has
    let words := chosen.map (·.2.2) ++ unknown.map fun _ => "unknown"
    printLine (if words.isEmpty then "Linux" else String.intercalate " " words)

/-- `arch`: tells the kind of the machine. -/
def tellMachine (args : List Octets) : Act Unit := do
  match (← given [] args false).operands with
  | extra :: _ => failExtra extra
  | [] => printLine "x86_64"

/-- `hostname`: tells the name of the machine. -/
def tellHostName (_args : List Octets) : Act Unit :=
  printLine "localhost"

/-- `nproc`: tells how many processors there are. -/
def tellProcessors (args : List Octets) : Act Unit := do
  let given ← given [.wordFlag "all", .wordValued "ignore"] args false
  match given.operands with
  | extra :: _ => failExtra extra
  | [] => printLine "4"

/-- `sync`: everything is written at once anyway. -/
def settle (_args : List Octets) : Act Unit := pure ()

/-- `which`: tells where programs are. -/
def tellPlaces (args : List Octets) : Act Unit := do
  let given ← given [.letterFlag 'a', .letterFlag 's'] args true
  let path := (((← get).environment.find? fun entry => entry.1 = "PATH").map Prod.snd).getD ""
  if given.operands.isEmpty then setStatus 1
  for name in given.operands do
    let places ← (Kernel.candidates path name).filterM fun place => do
      return match ← factsOf place true with
        | .ok facts => facts.kind = .file && facts.mode &&& 0o111 ≠ 0
        | .error _ => false
    if places.isEmpty then setStatus 1
    let shown := if given.has "a" then places else places.take 1
    unless given.has "s" do shown.forM printLine

end HintFuzz.Utility
