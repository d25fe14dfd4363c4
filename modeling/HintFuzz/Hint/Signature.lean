import HintFuzz.Hint.Line
import HintFuzz.Order.Ascending
import HintFuzz.Text.Quoted

/-!
# Signatures of hints

The variables that a hint refers to, each with its role: a root that is written
anywhere is an output, even if it is also read, so that a program around the
hint can return its final value; all others are inputs.
-/

namespace HintFuzz

/-- The position of a hint in its catalog. -/
abbrev HintId := Nat

/-- A hint of a catalog. -/
structure Hint where
  id : HintId
  lines : List String
deriving DecidableEq, Repr

/-- The direction in which a variable carries data, seen from the hint. -/
inductive Role
  | input
  | output
deriving DecidableEq, Repr

/-- One way to reach a felt of a root variable: the fields that lead to it. -/
structure VariableRef where
  root : String
  path : List String
  role : Role
deriving DecidableEq, Repr

/-- All accesses of one root variable. -/
structure RootVariable where
  name : String
  role : Role
  /-- The field paths by which the root is accessed; a bare access is the empty
  path.  Ascending in a signature. -/
  paths : List (List String)
  /-- The root occurs among the arguments of a `pack` call. -/
  packed : Bool
deriving DecidableEq, Repr

/-- How many fields each access of a root goes down. -/
def RootVariable.arity (root : RootVariable) : Nat :=
  (root.paths.head?.map List.length).getD 0

/-- The accesses of a root, with its role. -/
def RootVariable.refs (root : RootVariable) : List VariableRef :=
  root.paths.map fun path => ⟨root.name, path, root.role⟩

/-- The variables of one hint, ascending by name. -/
structure Signature where
  hint : HintId
  roots : List RootVariable
deriving DecidableEq, Repr

namespace Signature

/-- The roots that the hint only reads. -/
def inputs (signature : Signature) : List RootVariable :=
  signature.roots.filter fun root => root.role = .input

/-- The roots that the hint writes. -/
def outputs (signature : Signature) : List RootVariable :=
  signature.roots.filter fun root => root.role = .output

/-- The root of a given name. -/
def root? (signature : Signature) (name : String) : Option RootVariable :=
  signature.roots.find? fun root => root.name = name

end Signature

/-- Why a hint has no signature. -/
inductive AnalysisFault
  | noReferences (hint : HintId)
  /-- A root is accessed with field paths of several lengths. -/
  | inconsistentArity (hint : HintId) (root : String) (arities : List Nat)
deriving DecidableEq, Repr

/-- The wording of a fault. -/
def AnalysisFault.message : AnalysisFault → String
  | noReferences hint => s!"hint {hint} references no ids.* variables"
  | inconsistentArity hint root arities =>
    s!"hint {hint} accesses `{root}` with differing field depths " ++
      "[" ++ Text.commaSeparated (arities.map toString) ++ "]"

namespace Hint

/-- One reference chain of a hint, and what its line does with it. -/
structure Occurrence where
  root : String
  path : List String
  /-- The chain stands before the assignment operator of its line. -/
  written : Bool
  /-- The chain stands among the arguments of a `pack` call of its line. -/
  packed : Bool
deriving DecidableEq, Repr

/-- The occurrences on one line. -/
def Line.occurrences (line : Line) : List Occurrence :=
  let operator := line.operator?
  let packs := line.packs
  line.references.map fun reference =>
    { root := reference.root
      path := reference.path
      written := operator.any fun operator => reference.span.stop ≤ operator.start
      packed := packs.any fun arguments =>
        arguments.start ≤ reference.span.start ∧ reference.span.stop ≤ arguments.stop }

/-- The occurrences on lines of which the first continues `depth` open brackets. -/
def occurrences (depth : Nat) : List String → List Occurrence
  | [] => []
  | text :: rest =>
    let line := Line.scan depth text
    line.occurrences ++ occurrences line.closingDepth rest

/-- The root variable that a list of occurrences makes of a name. -/
def rootOf (found : List Occurrence) (name : String) : RootVariable :=
  let own := found.filter fun occurrence => occurrence.root = name
  { name
    role := if own.any Occurrence.written then .output else .input
    paths := ascending (own.map Occurrence.path)
    packed := own.any Occurrence.packed }

end Hint

/-- The signature of a hint. -/
def Hint.analyze (hint : Hint) : Except AnalysisFault Signature :=
  let found := Hint.occurrences 0 hint.lines
  let roots := (ascending (found.map Hint.Occurrence.root)).map (Hint.rootOf found)
  let arities (root : RootVariable) := ascending (root.paths.map List.length)
  if found.isEmpty then .error (.noReferences hint.id)
  else
    match roots.find? fun root => 1 < (arities root).length with
    | some root => .error (.inconsistentArity hint.id root.name (arities root))
    | none => .ok ⟨hint.id, roots⟩

end HintFuzz
