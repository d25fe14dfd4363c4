import HintFuzz.Cairo.Render
import HintFuzz.Cairo.Shape
import HintFuzz.Cairo.Types

/-!
# Wrapper programs for hints

Around the signature of a hint a program is built in which `main` makes every
input out of placeholders and calls a function whose body is the hint, with
every output declared as a local that the hint fills in and the function
returns.

A signature is first searched for a fault.  One without a fault always has a
program: the types of its roots, the placeholders of its inputs and the program
are then plain functions of the signature.
-/

/-! ### Names that a hint variable may not have -/

namespace HintFuzz.Wrapper

open Cairo

/-- The function that a wrapper program starts with. -/
def entryFunction : String := "main"

/-- The function that holds the hint. -/
def hintFunction : String := "fuzz_hint"

/-- What the names of generated structs start with. -/
def generatedStem : String := "FuzzStruct"

/-- The name of the generated struct with a given number. -/
def generatedName (index : Nat) : String :=
  generatedStem ++ toString index

/-- Cairo keywords and builtin names. -/
def keywords : List String :=
  ["alloc_locals", "and", "ap", "as", "assert", "call", "cast", "codeoffset", "const", "dw",
   "else", "felt", "fp", "from", "func", "if", "import", "jmp", "let", "local", "member",
   "namespace", "new", "nondet", "pc", "rel", "abs", "ret", "return", "static_assert",
   "struct", "tempvar", "using", "with", "with_attr"]

/-- Whether a name is taken: by the language, by the vocabulary, by generated
structs or by the two functions of a wrapper program. -/
def isReserved (name : String) : Bool :=
  keywords.contains name || (Known.all.map Known.name).contains name ||
    generatedStem.toList.isPrefixOf name.toList ||
    name = entryFunction || name = hintFunction

end HintFuzz.Wrapper

/-! ### Synthesis -/

namespace HintFuzz

/-- Why a hint has no wrapper program, or a program no text. -/
inductive SynthesisFault
  /-- An output that is a felt cannot be returned by reference. -/
  | unreturnableOutput (hint : HintId) (root : String)
  | unresolvableType (hint : HintId) (root detail : String)
  | reservedIdentifier (hint : HintId) (name : String)
  | unboundPlaceholder (id : PlaceholderId)
  | unknownPlaceholder (id : PlaceholderId)
deriving DecidableEq, Repr

/-- The wording of a fault. -/
def SynthesisFault.message : SynthesisFault → String
  | unreturnableOutput hint root =>
    s!"hint {hint}: output `{root}` has no fields and cannot be returned"
  | unresolvableType hint root detail =>
    s!"hint {hint}: cannot resolve a type for `{root}`: {detail}"
  | reservedIdentifier hint name =>
    s!"hint {hint}: identifier `{name}` collides with a reserved name"
  | unboundPlaceholder id => s!"no value bound to placeholder {id}"
  | unknownPlaceholder id => s!"value supplied for unknown placeholder {id}"

/-- How far a program is believed to compile by construction. -/
inductive Confidence
  /-- Every root has a type of the vocabulary that fits its accesses. -/
  | exact
  /-- A root was coerced or given a generated struct. -/
  | approximate
deriving DecidableEq, Repr

/-- The word for a confidence. -/
def Confidence.word : Confidence → String
  | exact => "Exact"
  | approximate => "Approximate"

/-- A placeholder and the leaf of an input that it fills. -/
structure Placeholder where
  id : PlaceholderId
  binding : VariableRef
deriving DecidableEq, Repr

/-- A hint with a program around it. -/
structure Wrapper where
  hint : HintId
  program : Cairo.Program
  /-- The program's text with a token for every placeholder. -/
  text : String
  placeholders : List Placeholder
  inputs : List VariableRef
  outputs : List VariableRef
  confidence : Confidence
deriving Repr

namespace Wrapper

open Cairo

/-! ### Faults -/

/-- What is wrong with one root.  Its name is looked at first, then its shape,
and last whether it can be returned. -/
def rootFault? (hint : HintId) (root : RootVariable) : Option SynthesisFault :=
  if isReserved root.name then some (.reservedIdentifier hint root.name)
  else
    match root.shape with
    | .generated members => (members.find? isReserved).map (.reservedIdentifier hint)
    | .unresolvable detail => some (.unresolvableType hint root.name detail)
    | .known type _ =>
      if root.role = .output ∧ type = .felt then some (.unreturnableOutput hint root.name)
      else none

/-- The fault of the first root that has one. -/
def fault? (signature : Signature) : Option SynthesisFault :=
  signature.roots.findSome? (rootFault? signature.hint)

/-! ### Types -/

/-- The member lists of the generated structs, in the order in which roots ask
for them.  Roots with the same members share a struct. -/
def generatedMembers (roots : List RootVariable) : List (List String) :=
  (roots.filterMap fun root =>
    match root.shape with
    | .generated members => some members
    | _ => none).eraseDups

/-- The type of a root, given the member lists of all generated structs. -/
def typeOf (generated : List (List String)) (root : RootVariable) : CairoType :=
  match root.shape with
  | .known type _ => type
  | .generated members => .generated (generatedName (generated.idxOf members)) members
  | .unresolvable _ => .felt

/-- A root variable with its type. -/
structure TypedRoot where
  root : RootVariable
  type : CairoType
deriving DecidableEq, Repr

/-- The roots of a signature with their types. -/
def typedRoots (roots : List RootVariable) : List TypedRoot :=
  roots.map fun root => ⟨root, typeOf (generatedMembers roots) root⟩

/-- Exact if every root has a shape that fits. -/
def confidenceOf (roots : List RootVariable) : Confidence :=
  let fits (root : RootVariable) : Bool :=
    match root.shape with
    | .known _ exact => exact
    | _ => false
  if roots.all fits then .exact else .approximate

/-- The structs that a list of types needs, in declaration order. -/
def structTypes (types : List CairoType) : List CairoType :=
  let structs := types.filter (· ≠ .felt)
  ascending
    (if structs.contains (.known .secpPoint) then .known .bigInt3 :: structs else structs)

/-- The declaration of a struct. -/
def structDef (type : CairoType) : StructDef :=
  ⟨type.name, type.members.map fun member => (member.1, member.2.name)⟩

/-! ### Inputs -/

/-- A struct value whose members are placeholders, numbered from `first`. -/
def flatValue (name : String) (members : List String) (first : PlaceholderId) : Expr :=
  .construct name ((members.zipIdx first).map fun (member, id) => (member, .placeholder id))

/-- The value of an input: one placeholder for each leaf of its type, numbered
from `first` in declaration order. -/
def inputValue (first : PlaceholderId) : CairoType → Expr
  | .felt => .placeholder first
  | .known .secpPoint =>
    let coordinate (number : Nat) :=
      flatValue Known.bigInt3.name limbs (first + number * limbs.length)
    .construct Known.secpPoint.name
      ((coordinates.zipIdx).map fun (member, number) => (member, coordinate number))
  | type => flatValue type.name (type.members.map Prod.fst) first

/-- The statements that bind inputs to their values, with placeholders numbered
from `first`. -/
def bindInputs (first : PlaceholderId) : List TypedRoot → List Statement
  | [] => []
  | input :: rest =>
    .bind (.single input.root.name) (inputValue first input.type) ::
      bindInputs (first + input.type.leafCount) rest

/-- The leaves of inputs in the order of their placeholders. -/
def inputLeaves (inputs : List TypedRoot) : List VariableRef :=
  inputs.flatMap fun input =>
    input.type.leaves.map fun path => ⟨input.root.name, path, .input⟩

/-- The placeholders of inputs, numbered from 0. -/
def placeholdersOf (inputs : List TypedRoot) : List Placeholder :=
  (inputLeaves inputs).zipIdx.map fun (leaf, id) => ⟨id, leaf⟩

/-! ### The program -/

/-- The statement that calls the hint function and binds what it returns. -/
def callHint (inputs outputs : List TypedRoot) : Statement :=
  let call := Expr.call hintFunction (inputs.map fun input => .ident input.root.name)
  match outputs.map fun output => output.root.name with
  | [] => .eval call
  | [name] => .bind (.single name) call
  | names => .bind (.tuple names) call

/-- The function `main`. -/
def entry (inputs outputs : List TypedRoot) : Function :=
  { name := entryFunction
    params := []
    returns := []
    body := bindInputs 0 inputs ++ [callHint inputs outputs, .ret []] }

/-- The function that holds the hint. -/
def hintHolder (lines : List String) (inputs outputs : List TypedRoot) : Function :=
  { name := hintFunction
    params := inputs.map fun input => ⟨input.root.name, input.type.name⟩
    returns := outputs.map fun output => output.type.name
    body :=
      .allocLocals ::
        (outputs.map fun output => .localVar output.root.name output.type.name) ++
        [.hint lines, .ret (outputs.map fun output => .ident output.root.name)] }

/-- The program around a hint's lines. -/
def programOf (lines : List String) (roots : List TypedRoot) : Program :=
  let inputs := roots.filter fun typed => typed.root.role = .input
  let outputs := roots.filter fun typed => typed.root.role = .output
  { structs := (structTypes (roots.map TypedRoot.type)).map structDef
    functions := [entry inputs outputs, hintHolder lines inputs outputs] }

end Wrapper

open Wrapper in
/-- The wrapper of a hint, given the hint's signature. -/
def Hint.synthesize (hint : Hint) (signature : Signature) : Except SynthesisFault Wrapper :=
  match fault? signature with
  | some fault => .error fault
  | none =>
    let roots := typedRoots signature.roots
    let program := programOf hint.lines roots
    match program.render .tokens with
    | .error id => .error (.unboundPlaceholder id)
    | .ok text =>
      .ok
        { hint := signature.hint
          program
          text
          placeholders := placeholdersOf (roots.filter fun typed => typed.root.role = .input)
          inputs := signature.inputs.flatMap RootVariable.refs
          outputs := signature.outputs.flatMap RootVariable.refs
          confidence := confidenceOf signature.roots }

namespace Wrapper

/-- The numbers of the placeholders. -/
def placeholderIds (wrapper : Wrapper) : List PlaceholderId :=
  wrapper.placeholders.map Placeholder.id

/-- The program's text with a value for every placeholder.  A value for a
placeholder that the program does not have is a fault, as is a placeholder
without a value. -/
def instantiate (wrapper : Wrapper) (values : List Assigned) : Except SynthesisFault String :=
  match values.find? fun assigned => !wrapper.placeholderIds.contains assigned.placeholder with
  | some stray => .error (.unknownPlaceholder stray.placeholder)
  | none =>
    match wrapper.program.render (.ofValues values) with
    | .error id => .error (.unboundPlaceholder id)
    | .ok text => .ok text

end Wrapper

end HintFuzz
