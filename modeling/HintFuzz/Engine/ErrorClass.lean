import HintFuzz.Text.Search

/-!
# Classes of engine failures

Two engines that fail the same program must agree on the class of the failure.
The class is read off the message: the first word of a table that occurs in it,
in any case, decides.
-/

namespace HintFuzz

/-- The kind of an engine failure. -/
inductive ErrorClass
  | unknownHint
  | hintFailure
  | rangeCheck
  | unknownMemoryCell
  | inconsistentMemory
  | assertEqFailed
  /-- The engine died, by a signal or a panic, or left unreadable output. -/
  | crash
  | timeout
  /-- The engine could not be started at all. -/
  | unavailable
  | unclassified
deriving DecidableEq, Repr

namespace ErrorClass

/-- All classes, in declaration order. -/
def all : List ErrorClass :=
  [unknownHint, hintFailure, rangeCheck, unknownMemoryCell, inconsistentMemory,
   assertEqFailed, crash, timeout, unavailable, unclassified]

/-- The word for a class. -/
def name : ErrorClass → String
  | unknownHint => "unknown_hint"
  | hintFailure => "hint_failure"
  | rangeCheck => "range_check"
  | unknownMemoryCell => "unknown_memory_cell"
  | inconsistentMemory => "inconsistent_memory"
  | assertEqFailed => "assert_eq_failed"
  | crash => "crash"
  | timeout => "timeout"
  | unavailable => "unavailable"
  | unclassified => "unclassified"

/-- The class that a word stands for. -/
def ofName? (text : String) : Option ErrorClass :=
  all.find? fun errorClass => errorClass.name = text

/-- Fragments of failure messages in lower case, and the class that each points
to.  Earlier rows go first. -/
def fragments : List (String × ErrorClass) :=
  [("unknown hint", unknownHint),
   ("unknownhint", unknownHint),
   ("not whitelisted", unknownHint),
   ("got an exception while executing a hint", hintFailure),
   ("hint error", hintFailure),
   ("hinterror", hintFailure),
   ("range_check", rangeCheck),
   ("range-check", rangeCheck),
   ("range check", rangeCheck),
   ("rangecheck", rangeCheck),
   ("unknown value for memory cell", unknownMemoryCell),
   ("unknown memory cell", unknownMemoryCell),
   ("unknownmemorycell", unknownMemoryCell),
   ("inconsistent memory", inconsistentMemory),
   ("inconsistentmemory", inconsistentMemory),
   ("assert_eq", assertEqFailed),
   ("diffassertvalues", assertEqFailed),
   ("panicked at", crash),
   ("segmentation fault", crash)]

/-- The class of a failure message. -/
def classify (message : String) : ErrorClass :=
  let folded := Text.folded message
  match fragments.find? fun row => Text.occursIn row.1.toList folded with
  | some (_, errorClass) => errorClass
  | none => unclassified

/-- Failures of the machinery around the engines, not of the program that is
run. -/
def isInfrastructure : ErrorClass → Bool
  | timeout | unavailable => true
  | _ => false

end ErrorClass

end HintFuzz
