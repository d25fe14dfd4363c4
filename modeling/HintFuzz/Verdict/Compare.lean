import HintFuzz.Engine.Outcome
import HintFuzz.Wrapper.Synthesis

/-!
# Verdicts

What a pair of outcomes, or a compiler's refusal, says about the engines.
-/

namespace HintFuzz

/-- What two engines disagree on.  `Value` is how the value of a memory cell is
given. -/
inductive Discrepancy (Value : Type)
  /-- Both runs ended well with different memories.  `address` is the lowest
  address at which they differ. -/
  | memoryMismatch (address : Address) (a b : Option Value) (differingCells : Nat)
  /-- One engine accepted the program and the other did not. -/
  | inconsistentOutcome (failed : Slot) (errorClass : ErrorClass) (message : String)
  | divergentErrorClass (a b : ErrorClass) (aMessage bMessage : String)
  /-- The compiler rejected a program that ought to compile. -/
  | compileRejected (message : String)
deriving DecidableEq, Repr

namespace Discrepancy

/-- The word for the kind of a discrepancy. -/
def kind {Value : Type} : Discrepancy Value → String
  | memoryMismatch .. => "memory_mismatch"
  | inconsistentOutcome .. => "inconsistent_outcome"
  | divergentErrorClass .. => "divergent_error_class"
  | compileRejected _ => "compile_rejected"

/-- The same discrepancy with cell values given in another way. -/
def map {Value Value' : Type} (f : Value → Value') : Discrepancy Value → Discrepancy Value'
  | memoryMismatch address a b differingCells =>
    memoryMismatch address (a.map f) (b.map f) differingCells
  | inconsistentOutcome failed errorClass message =>
    inconsistentOutcome failed errorClass message
  | divergentErrorClass a b aMessage bMessage => divergentErrorClass a b aMessage bMessage
  | compileRejected message => compileRejected message

end Discrepancy

/-- Why an iteration shows nothing either way. -/
inductive Inconclusive
  | engineTimeout (slot : Slot)
  | engineUnavailable (slot : Slot) (message : String)
  | compileTimeout
  | compilerIo (cause : String)
  /-- A program built from approximate types did not compile. -/
  | approximateRejected (message : String)
  /-- An engine gave another outcome when it was run again. -/
  | nonDeterministic (slot : Slot)
deriving DecidableEq, Repr

/-- What reasons are counted by. -/
inductive Inconclusive.Label
  | approximateRejected
  | compileTimeout
  | compilerIo
  | engineTimeout
  | engineUnavailable
  | nonDeterministic
deriving DecidableEq, Repr

namespace Inconclusive.Label

/-- All labels, in the order of their words. -/
def all : List Label :=
  [approximateRejected, compileTimeout, compilerIo, engineTimeout, engineUnavailable,
   nonDeterministic]

/-- The word for a label. -/
def name : Label → String
  | approximateRejected => "approximate_rejected"
  | compileTimeout => "compile_timeout"
  | compilerIo => "compiler_io"
  | engineTimeout => "engine_timeout"
  | engineUnavailable => "engine_unavailable"
  | nonDeterministic => "non_deterministic"

end Inconclusive.Label

/-- The label of a reason. -/
def Inconclusive.label : Inconclusive → Inconclusive.Label
  | engineTimeout _ => .engineTimeout
  | engineUnavailable _ _ => .engineUnavailable
  | compileTimeout => .compileTimeout
  | compilerIo _ => .compilerIo
  | approximateRejected _ => .approximateRejected
  | nonDeterministic _ => .nonDeterministic

/-- A reason with the names and the quoted texts it is made of. -/
def Inconclusive.describe : Inconclusive → String
  | engineTimeout slot => s!"EngineTimeout({slot.name})"
  | engineUnavailable slot message =>
    "EngineUnavailable \x7b slot: " ++ slot.name ++ ", message: " ++ Text.quoted message ++ " \x7d"
  | compileTimeout => "CompileTimeout"
  | compilerIo cause => s!"CompilerIo({Text.quoted cause})"
  | approximateRejected message => s!"ApproximateRejected({Text.quoted message})"
  | nonDeterministic slot => s!"NonDeterministic({slot.name})"

/-- What an iteration shows. -/
inductive Verdict
  | pass
  | finding (detail : Discrepancy Felt)
  | inconclusive (reason : Inconclusive)
deriving DecidableEq, Repr

/-- The reason why an outcome says nothing about its engine, if there is one. -/
def Outcome.infrastructureFailure? (slot : Slot) : Outcome → Option Inconclusive
  | .failed .timeout _ => some (.engineTimeout slot)
  | .failed .unavailable message => some (.engineUnavailable slot message)
  | _ => none

namespace Verdict

/-- The verdict on two memories. -/
def ofMemories (left right : Snapshot) : Verdict :=
  match left.differences right with
  | [] => .pass
  | first :: rest =>
    .finding (.memoryMismatch first.address first.left first.right (rest.length + 1))

/-- The verdict on a pair of outcomes. -/
def compare (a b : Outcome) : Verdict :=
  match a.infrastructureFailure? .a <|> b.infrastructureFailure? .b with
  | some reason => .inconclusive reason
  | none =>
    match a, b with
    | .finished left, .finished right => ofMemories left right
    | .finished _, .failed errorClass message =>
      .finding (.inconsistentOutcome .b errorClass message)
    | .failed errorClass message, .finished _ =>
      .finding (.inconsistentOutcome .a errorClass message)
    | .failed aClass aMessage, .failed bClass bMessage =>
      if aClass = bClass then .pass
      else .finding (.divergentErrorClass aClass bClass aMessage bMessage)

/-- The verdict on a program that was not compiled. -/
def ofCompileFault (fault : CompileFault) (confidence : Confidence) : Verdict :=
  match fault, confidence with
  | .rejected message, .exact => .finding (.compileRejected message)
  | .rejected message, .approximate => .inconclusive (.approximateRejected message)
  | .timeout _, _ => .inconclusive .compileTimeout
  | .unreachable cause, _ => .inconclusive (.compilerIo cause)

end Verdict

end HintFuzz
