import HintFuzz.Catalog.Basic
import HintFuzz.Wrapper.Synthesis

/-!
# What an iteration runs

The seed of an iteration fixes everything about it: the first number of the
seed's stream picks the hint, and the values of the placeholders follow.  A hint
that is named instead of picked takes the same values, since the first number is
drawn all the same.
-/

namespace HintFuzz

/-- Why an iteration never reaches the engines. -/
inductive SkipReason
  | emptyCatalog
  | unknownHint (id : HintId)
  | analysis (fault : AnalysisFault)
  | synthesis (fault : SynthesisFault)
deriving DecidableEq, Repr

/-- What reasons for skipping are counted by. -/
inductive SkipReason.Label
  | emptyCatalog
  | inconsistentArity
  | noReferences
  | placeholderBinding
  | reservedIdentifier
  | unknownHint
  | unresolvableType
  | unreturnableOutput
deriving DecidableEq, Repr

namespace SkipReason.Label

/-- All labels, in the order of their words. -/
def all : List Label :=
  [emptyCatalog, inconsistentArity, noReferences, placeholderBinding, reservedIdentifier,
   unknownHint, unresolvableType, unreturnableOutput]

/-- The word for a label. -/
def name : Label → String
  | emptyCatalog => "empty_catalog"
  | inconsistentArity => "inconsistent_arity"
  | noReferences => "no_references"
  | placeholderBinding => "placeholder_binding"
  | reservedIdentifier => "reserved_identifier"
  | unknownHint => "unknown_hint"
  | unresolvableType => "unresolvable_type"
  | unreturnableOutput => "unreturnable_output"

end SkipReason.Label

namespace SkipReason

/-- The label of a reason. -/
def label : SkipReason → Label
  | emptyCatalog => .emptyCatalog
  | unknownHint _ => .unknownHint
  | analysis (.noReferences _) => .noReferences
  | analysis (.inconsistentArity ..) => .inconsistentArity
  | synthesis (.unreturnableOutput ..) => .unreturnableOutput
  | synthesis (.unresolvableType ..) => .unresolvableType
  | synthesis (.reservedIdentifier ..) => .reservedIdentifier
  | synthesis (.unboundPlaceholder _) | synthesis (.unknownPlaceholder _) => .placeholderBinding

/-- The hint that the iteration had chosen, if it had chosen one. -/
def hint? : SkipReason → Option HintId
  | emptyCatalog => none
  | unknownHint id => some id
  | analysis (.noReferences hint) | analysis (.inconsistentArity hint _ _) => some hint
  | synthesis (.unreturnableOutput hint _) | synthesis (.unresolvableType hint _ _)
  | synthesis (.reservedIdentifier hint _) => some hint
  | synthesis (.unboundPlaceholder _) | synthesis (.unknownPlaceholder _) => none

/-- The wording of a reason. -/
def message : SkipReason → String
  | emptyCatalog => "the hint catalog is empty"
  | unknownHint id => s!"no hint with id {id}"
  | analysis fault => fault.message
  | synthesis fault => fault.message

end SkipReason

/-- The wrapper of a hint. -/
def Hint.prepare (hint : Hint) : Except SkipReason Wrapper := do
  let signature ← hint.analyze.mapError .analysis
  (hint.synthesize signature).mapError .synthesis

/-- A wrapper and the values that its placeholders take. -/
structure Plan where
  wrapper : Wrapper
  values : List Assigned
deriving Repr

/-- What the iteration with a given seed runs.  `hint`, if given, takes the
place of the hint that the seed picks. -/
def Catalog.plan (catalog : Catalog) (seed : UInt64) (hint : Option HintId) :
    Except SkipReason Plan := do
  let (selected, stream) := catalog.select (.ofSeed seed)
  match hint <|> selected with
  | none => .error .emptyCatalog
  | some id =>
    match catalog.get? id with
    | none => .error (.unknownHint id)
    | some entry =>
      let wrapper ← entry.prepare
      return ⟨wrapper, Values.assign wrapper.placeholderIds stream⟩

/-- Whether a hint of a catalog can be run. -/
structure CoverageEntry where
  hint : HintId
  result : Except SkipReason Confidence

/-- Analysis and synthesis of every hint of a catalog. -/
def Catalog.coverage (catalog : Catalog) : List CoverageEntry :=
  catalog.entries.map fun hint => ⟨hint.id, hint.prepare.map Wrapper.confidence⟩

end HintFuzz
