import HintFuzz.Condition
import HintFuzz.Format.Arguments
import HintFuzz.Utility.Options

/-!
# Words

Utilities that have to do with their arguments alone: they print them, judge them, or
take names apart.
-/

namespace HintFuzz.Utility

open Kernel (ask)

/-- `true`: succeeds. -/
def succeed (_args : List Octets) : Act Unit := pure ()

/-- `false`: fails. -/
def refuse (_args : List Octets) : Act Unit := setStatus 1

/-! ### Printing -/

/-- The options that stand in front of what is printed: whether a line feed ends it and
whether escapes count. -/
def sayOptions : (feeds escapes : Bool) → List Octets → Bool × Bool × List Octets
  | feeds, escapes, arg :: rest =>
    match arg.toList with
    | '-' :: c :: letters =>
      if (c :: letters).all fun c => c = 'n' || c = 'e' || c = 'E' then
        let escapes : Bool := (c :: letters).foldl
          (fun escapes c => if c = 'n' then escapes else c == 'e') escapes
        sayOptions (feeds && !(c :: letters).contains 'n') escapes rest
      else (feeds, escapes, arg :: rest)
    | _ => (feeds, escapes, arg :: rest)
  | feeds, escapes, [] => (feeds, escapes, [])

/-- `echo`: prints its arguments. -/
def say (args : List Octets) : Act Unit := do
  let (feeds, escapes, words) := sayOptions true false args
  let text := String.intercalate " " words
  if escapes then
    let (characters, ended) := Format.unescape true (text.length + 1) text.toList
    print (String.ofList characters)
    if feeds ∧ !ended then print "\n"
  else print (if feeds then text ++ "\n" else text)

/-- What is said of an argument that is no number. -/
def argumentMessage (fault : Format.ArgumentFault) : Octets :=
  Text.quotedWord fault.arg ++ match fault.defect with
    | .noNumber => ": expected a numeric value"
    | .tooLong => ": value not completely converted"
    | .outOfRange => ": Numerical result out of range"

/-- `printf`: prints a format with its arguments. -/
def printFormatted (args : List Octets) : Act Unit := do
  match if args.head? = some "--" then args.tail else args with
  | [] => failMissing
  | format :: args =>
    let result := Format.formatted true format args
    for fault in result.complaints do
      unless fault.arg = "" do complain (argumentMessage fault)
    print (String.ofList result.text)
    match result.fault, result.args with
    | some .missingLetter, _ =>
      flush
      fail "%: invalid conversion specification"
    | some (.invalidDirective directive), _ =>
      flush
      fail (directive ++ ": invalid conversion specification")
    | none, [] => pure ()
    | none, first :: _ =>
      unless result.ended do
        flush
        warn ("warning: ignoring excess arguments, starting with " ++ Text.quotedWord first)

/-! ### Judging -/

/-- `test` and `[`: tells whether a condition holds. -/
def judge (args : List Octets) : Act Unit := do
  match ← Kernel.attempt (Condition.ofCommand (lastName (← get).name) args) with
  | .ok holds => setStatus (if holds then 0 else 1)
  | .error fault => fail fault

/-! ### Names of files -/

/-- A name without an ending, unless nothing else is in it. -/
def withoutEnding (ending name : Octets) : Octets :=
  if ending ≠ name ∧ name.endsWith ending then
    String.ofList (name.toList.take (name.length - ending.length))
  else name

/-- `basename`: the last names of paths. -/
def lastNames (args : List Octets) : Act Unit := do
  let given ← given
    [.flag 'a' "multiple", .valued 's' "suffix", .flag 'z' "zero"] args true
  let sayName (ending path : Octets) : Act Unit :=
    print (withoutEnding ending (lastName path) ++ if given.has "zero" then "\x00" else "\n")
  if given.has "multiple" || given.has "suffix" then
    if given.operands.isEmpty then failMissing
    else given.operands.forM (sayName ((given.value? "suffix").getD ""))
  else
    match given.operands with
    | [] => failMissing
    | [path] => sayName "" path
    | [path, ending] => sayName ending path
    | _ :: _ :: extra :: _ => failExtra extra

/-- `dirname`: the directories of paths. -/
def directoryNames (args : List Octets) : Act Unit := do
  let given ← given [.flag 'z' "zero"] args false
  if given.operands.isEmpty then failMissing
  else given.operands.forM fun path =>
    print (directoryName path ++ if given.has "zero" then "\x00" else "\n")

/-! ### Time -/

/-- The nanoseconds of a time with a unit behind it. -/
def intervalOf? (text : Octets) : Option Nat :=
  match Format.floatFront? text.toList with
  | none => none
  | some (value, rest) =>
    let factor? : Option Float := match rest with
      | [] | ['s'] => some 1.0
      | ['m'] => some 60.0
      | ['h'] => some 3600.0
      | ['d'] => some 86400.0
      | _ => none
    if value < 0.0 ∨ value.isNaN then none
    else factor?.map fun factor => (value * factor * 1000000000.0).toUInt64.toNat

/-- `sleep`: waits. -/
def pause (args : List Octets) : Act Unit := do
  let given ← given [] args false
  if given.operands.isEmpty then failMissing
  else
    let times := given.operands.map fun text => (text, intervalOf? text)
    let wrong := times.filter fun (_, time) => time.isNone
    if wrong.isEmpty then
      let length := times.foldl (fun sum (_, time) => sum + time.getD 0) 0
      let _ ← ask (.sleep ((← ask .clock) + length))
    else
      for (text, _) in wrong do
        warn ("invalid time interval " ++ Text.quotedWord text)
      printError (← helpLine)
      setStatus 1

end HintFuzz.Utility
