import HintFuzz.Finding.Record
import HintFuzz.Json.Basic
import HintFuzz.Trial.Plan

/-!
# Outcomes of iterations, counted

A summary is a sum: what it counts is added up outcome by outcome, so summaries
of parts of a run can be merged in any order and grouping.
-/

namespace HintFuzz

/-- What an iteration came to. -/
inductive Iteration
  | pass
  | inconclusive (reason : Inconclusive)
  | finding (record : Finding)
  | skipped (reason : SkipReason)
  | cancelled
deriving DecidableEq, Repr

/-- How many iterations were inconclusive, by label. -/
structure InconclusiveCounts where
  approximateRejected : Nat
  compileTimeout : Nat
  compilerIo : Nat
  engineTimeout : Nat
  engineUnavailable : Nat
  nonDeterministic : Nat
deriving DecidableEq, Repr

namespace InconclusiveCounts

/-- One count under a label and none elsewhere. -/
def one (label : Inconclusive.Label) : InconclusiveCounts where
  approximateRejected := if label = .approximateRejected then 1 else 0
  compileTimeout := if label = .compileTimeout then 1 else 0
  compilerIo := if label = .compilerIo then 1 else 0
  engineTimeout := if label = .engineTimeout then 1 else 0
  engineUnavailable := if label = .engineUnavailable then 1 else 0
  nonDeterministic := if label = .nonDeterministic then 1 else 0

/-- No counts. -/
def zero : InconclusiveCounts := ⟨0, 0, 0, 0, 0, 0⟩

/-- The sum of two counts, label by label. -/
def add (left right : InconclusiveCounts) : InconclusiveCounts where
  approximateRejected := left.approximateRejected + right.approximateRejected
  compileTimeout := left.compileTimeout + right.compileTimeout
  compilerIo := left.compilerIo + right.compilerIo
  engineTimeout := left.engineTimeout + right.engineTimeout
  engineUnavailable := left.engineUnavailable + right.engineUnavailable
  nonDeterministic := left.nonDeterministic + right.nonDeterministic

/-- The count under a label. -/
def get (counts : InconclusiveCounts) : Inconclusive.Label → Nat
  | .approximateRejected => counts.approximateRejected
  | .compileTimeout => counts.compileTimeout
  | .compilerIo => counts.compilerIo
  | .engineTimeout => counts.engineTimeout
  | .engineUnavailable => counts.engineUnavailable
  | .nonDeterministic => counts.nonDeterministic

/-- The sum over all labels. -/
def total (counts : InconclusiveCounts) : Nat :=
  (Inconclusive.Label.all.map counts.get).foldr (· + ·) 0

/-- The labels with a count, in the order of their words. -/
def entries (counts : InconclusiveCounts) : List (String × Nat) :=
  (Inconclusive.Label.all.map fun label => (label.name, counts.get label)).filter
    fun entry => 0 < entry.2

end InconclusiveCounts

/-- How many iterations were skipped, by label. -/
structure SkipCounts where
  emptyCatalog : Nat
  inconsistentArity : Nat
  noReferences : Nat
  placeholderBinding : Nat
  reservedIdentifier : Nat
  unknownHint : Nat
  unresolvableType : Nat
  unreturnableOutput : Nat
deriving DecidableEq, Repr

namespace SkipCounts

/-- One count under a label and none elsewhere. -/
def one (label : SkipReason.Label) : SkipCounts where
  emptyCatalog := if label = .emptyCatalog then 1 else 0
  inconsistentArity := if label = .inconsistentArity then 1 else 0
  noReferences := if label = .noReferences then 1 else 0
  placeholderBinding := if label = .placeholderBinding then 1 else 0
  reservedIdentifier := if label = .reservedIdentifier then 1 else 0
  unknownHint := if label = .unknownHint then 1 else 0
  unresolvableType := if label = .unresolvableType then 1 else 0
  unreturnableOutput := if label = .unreturnableOutput then 1 else 0

/-- No counts. -/
def zero : SkipCounts := ⟨0, 0, 0, 0, 0, 0, 0, 0⟩

/-- The sum of two counts, label by label. -/
def add (left right : SkipCounts) : SkipCounts where
  emptyCatalog := left.emptyCatalog + right.emptyCatalog
  inconsistentArity := left.inconsistentArity + right.inconsistentArity
  noReferences := left.noReferences + right.noReferences
  placeholderBinding := left.placeholderBinding + right.placeholderBinding
  reservedIdentifier := left.reservedIdentifier + right.reservedIdentifier
  unknownHint := left.unknownHint + right.unknownHint
  unresolvableType := left.unresolvableType + right.unresolvableType
  unreturnableOutput := left.unreturnableOutput + right.unreturnableOutput

/-- The count under a label. -/
def get (counts : SkipCounts) : SkipReason.Label → Nat
  | .emptyCatalog => counts.emptyCatalog
  | .inconsistentArity => counts.inconsistentArity
  | .noReferences => counts.noReferences
  | .placeholderBinding => counts.placeholderBinding
  | .reservedIdentifier => counts.reservedIdentifier
  | .unknownHint => counts.unknownHint
  | .unresolvableType => counts.unresolvableType
  | .unreturnableOutput => counts.unreturnableOutput

/-- The sum over all labels. -/
def total (counts : SkipCounts) : Nat :=
  (SkipReason.Label.all.map counts.get).foldr (· + ·) 0

/-- The labels with a count, in the order of their words. -/
def entries (counts : SkipCounts) : List (String × Nat) :=
  (SkipReason.Label.all.map fun label => (label.name, counts.get label)).filter
    fun entry => 0 < entry.2

end SkipCounts

/-- The outcomes of a run, counted. -/
structure Summary where
  iterations : Nat
  passed : Nat
  findings : Nat
  cancelled : Nat
  inconclusive : InconclusiveCounts
  skipped : SkipCounts
deriving DecidableEq, Repr

namespace Summary

/-- The summary of no iterations. -/
def empty : Summary := ⟨0, 0, 0, 0, .zero, .zero⟩

/-- The summary of one iteration. -/
def ofIteration : Iteration → Summary
  | .pass => ⟨1, 1, 0, 0, .zero, .zero⟩
  | .finding _ => ⟨1, 0, 1, 0, .zero, .zero⟩
  | .cancelled => ⟨1, 0, 0, 1, .zero, .zero⟩
  | .inconclusive reason => ⟨1, 0, 0, 0, .one reason.label, .zero⟩
  | .skipped reason => ⟨1, 0, 0, 0, .zero, .one reason.label⟩

/-- The summary of the iterations of both summaries. -/
def merge (left right : Summary) : Summary where
  iterations := left.iterations + right.iterations
  passed := left.passed + right.passed
  findings := left.findings + right.findings
  cancelled := left.cancelled + right.cancelled
  inconclusive := left.inconclusive.add right.inconclusive
  skipped := left.skipped.add right.skipped

/-- A summary with one iteration more. -/
def record (summary : Summary) (iteration : Iteration) : Summary :=
  summary.merge (ofIteration iteration)

/-- A summary as an object. -/
def toJson (summary : Summary) : Json :=
  let counts (entries : List (String × Nat)) : Json :=
    .ofMembers (entries.map fun (label, count) => (label, .ofNat count))
  .ofMembers
    [("iterations", .ofNat summary.iterations),
     ("passed", .ofNat summary.passed),
     ("findings", .ofNat summary.findings),
     ("cancelled", .ofNat summary.cancelled),
     ("inconclusive", counts summary.inconclusive.entries),
     ("skipped", counts summary.skipped.entries)]

end Summary

end HintFuzz
