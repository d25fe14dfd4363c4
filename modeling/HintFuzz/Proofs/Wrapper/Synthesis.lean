import HintFuzz.Wrapper.Synthesis

/-!
# What synthesis gives

A wrapper is made of the signature of its hint alone, but for the lines that its
program holds (`Hint.synthesize_inv`).

The placeholders of a wrapper program are numbered in the order in which they are
written: `main` writes 0, 1, 2 and so on, and nothing else is a placeholder
(`Wrapper.placeholders_programOf`).  These are the numbers that a wrapper lists
(`Wrapper.ids_placeholdersOf`, `Hint.numbered_of_synthesize`).
-/

namespace HintFuzz

open Wrapper

variable {hint : Hint} {signature : Signature} {wrapper : Wrapper}

/-- The wrapper of a hint without a fault, given the text of its program. -/
def Hint.wrapperOf (hint : Hint) (signature : Signature) (text : String) : Wrapper where
  hint := signature.hint
  program := programOf hint.lines (typedRoots signature.roots)
  text := text
  placeholders :=
    placeholdersOf ((typedRoots signature.roots).filter fun typed => typed.root.role = .input)
  inputs := signature.inputs.flatMap RootVariable.refs
  outputs := signature.outputs.flatMap RootVariable.refs
  confidence := confidenceOf signature.roots

/-- All that a wrapper is made of. -/
theorem Hint.synthesize_inv (built : hint.synthesize signature = .ok wrapper) :
    fault? signature = none ∧ wrapper.program.render .tokens = .ok wrapper.text ∧
      wrapper = hint.wrapperOf signature wrapper.text := by
  unfold Hint.synthesize at built
  split at built
  · cases built
  · next faultless =>
      simp only at built
      split at built
      · cases built
      · next text written =>
          cases built
          exact ⟨faultless, written, rfl⟩

/-- A wrapper has the number of its signature, and a program around the lines of
its hint in which every root has its type. -/
theorem Hint.synthesize_ok (built : hint.synthesize signature = .ok wrapper) :
    wrapper.hint = signature.hint ∧
      wrapper.program = programOf hint.lines (typedRoots signature.roots) := by
  obtain ⟨-, -, made⟩ := Hint.synthesize_inv built
  rw [made]
  exact ⟨rfl, rfl⟩

/-- A wrapper has the text of its program with tokens, and one placeholder for each leaf
of an input. -/
theorem Hint.synthesize_text (built : hint.synthesize signature = .ok wrapper) :
    wrapper.program.render .tokens = .ok wrapper.text ∧
      wrapper.placeholders =
        placeholdersOf ((typedRoots signature.roots).filter fun typed => typed.root.role = .input) := by
  obtain ⟨-, written, made⟩ := Hint.synthesize_inv built
  refine ⟨written, ?_⟩
  rw [made]
  rfl

/-- The inputs of a wrapper are the references of the inputs of its signature. -/
theorem Hint.synthesize_inputs (built : hint.synthesize signature = .ok wrapper) :
    wrapper.inputs = signature.inputs.flatMap RootVariable.refs := by
  obtain ⟨-, -, made⟩ := Hint.synthesize_inv built
  rw [made]
  rfl

/-- A wrapper is as exact as the shapes of the roots, all of which have a type. -/
theorem Hint.synthesize_confidence (built : hint.synthesize signature = .ok wrapper) :
    wrapper.confidence = confidenceOf signature.roots ∧
      ∀ root ∈ signature.roots, ∀ detail, root.shape ≠ .unresolvable detail := by
  obtain ⟨faultless, -, made⟩ := Hint.synthesize_inv built
  constructor
  · rw [made]
    rfl
  · intro root member detail shape
    have sound := List.findSome?_eq_none_iff.mp faultless root member
    unfold rootFault? at sound
    rw [shape] at sound
    split at sound
    · cases sound
    · cases sound

end HintFuzz

namespace HintFuzz.Wrapper

open Cairo

private theorem fieldPlaceholders_zipIdx (members : List String) (first : PlaceholderId) :
    Expr.fieldPlaceholders
        ((members.zipIdx first).map fun (member, id) => (member, Expr.placeholder id)) =
      List.range' first members.length := by
  induction members generalizing first with
  | nil => rfl
  | cons member rest ih =>
      rw [List.zipIdx_cons, List.map_cons, Expr.fieldPlaceholders, ih, List.length_cons,
        List.range'_succ]
      rfl

private theorem placeholders_flatValue (name : String) (members : List String)
    (first : PlaceholderId) :
    (flatValue name members first).placeholders = List.range' first members.length :=
  fieldPlaceholders_zipIdx members first

/-- The value of an input takes one placeholder for each leaf of its type. -/
theorem placeholders_inputValue (first : PlaceholderId) (type : CairoType) :
    (inputValue first type).placeholders = List.range' first type.leafCount := by
  have flat (type : CairoType) :
      (flatValue type.name (type.members.map Prod.fst) first).placeholders =
        List.range' first (type.members.map fun member => [member.1]).length := by
    rw [placeholders_flatValue, List.length_map, List.length_map]
  -- Points of big integers are the only type with two levels of members.
  match type with
  | .felt => rfl
  | .known .bigInt3 => exact flat (.known .bigInt3)
  | .known .uint256 => exact flat (.known .uint256)
  | .known .ecPoint => exact flat (.known .ecPoint)
  | .known .secpPoint => rfl
  | .generated name members => exact flat (.generated name members)

/-- Inputs take consecutive placeholders. -/
theorem placeholders_bindInputs (first : PlaceholderId) (inputs : List TypedRoot) :
    (bindInputs first inputs).flatMap Statement.placeholders =
      List.range' first (inputLeaves inputs).length := by
  induction inputs generalizing first with
  | nil => rfl
  | cons input rest ih =>
      have leaves : (inputLeaves (input :: rest)).length =
          input.type.leafCount + (inputLeaves rest).length := by
        rw [inputLeaves, List.flatMap_cons, List.length_append, List.length_map]
        rfl
      rw [bindInputs, List.flatMap_cons, Statement.placeholders, placeholders_inputValue, ih, leaves,
        List.range'_append_1]

private theorem listPlaceholders_idents (names : List TypedRoot) :
    Expr.listPlaceholders (names.map fun typed => .ident typed.root.name) = [] := by
  induction names with
  | nil => rfl
  | cons name rest ih => exact ih

private theorem placeholders_callHint (inputs outputs : List TypedRoot) :
    (callHint inputs outputs).placeholders = [] := by
  unfold callHint
  match outputs with
  | [] => exact listPlaceholders_idents inputs
  | [output] => exact listPlaceholders_idents inputs
  | first :: second :: rest => exact listPlaceholders_idents inputs

/-- The function around a hint has no placeholders. -/
theorem placeholders_hintHolder (lines : List String) (inputs outputs : List TypedRoot) :
    (hintHolder lines inputs outputs).body.flatMap Statement.placeholders = [] := by
  have locals : (outputs.map fun output =>
      Statement.localVar output.root.name output.type.name).flatMap Statement.placeholders = [] := by
    rw [List.flatMap_eq_nil_iff]
    intro statement member
    obtain ⟨output, _, rfl⟩ := List.mem_map.mp member
    rfl
  rw [hintHolder, List.cons_append, List.flatMap_cons, List.flatMap_append, locals]
  exact (List.append_nil _).trans (listPlaceholders_idents outputs)

/-- The placeholders of a wrapper program are the first numbers, in order. -/
theorem placeholders_programOf (lines : List String) (roots : List TypedRoot) :
    (programOf lines roots).placeholders =
      List.range (inputLeaves (roots.filter fun typed => typed.root.role = .input)).length := by
  rw [Program.placeholders, programOf, List.flatMap_cons, List.flatMap_singleton,
    placeholders_hintHolder, entry, List.flatMap_append, placeholders_bindInputs, List.flatMap_cons,
    placeholders_callHint, List.range_eq_range']
  exact (List.append_nil _).trans (List.append_nil _)

/-- Placeholders are numbered from 0 on. -/
theorem ids_placeholdersOf (inputs : List TypedRoot) :
    (placeholdersOf inputs).map Placeholder.id = List.range (inputLeaves inputs).length := by
  rw [placeholdersOf, List.map_map, List.range_eq_range', ← List.zipIdx_map_snd]
  rfl

/-- Placeholders stand for the leaves of the inputs, in order. -/
theorem bindings_placeholdersOf (inputs : List TypedRoot) :
    (placeholdersOf inputs).map Placeholder.binding = inputLeaves inputs := by
  rw [placeholdersOf, List.map_map]
  exact List.zipIdx_map_fst 0 _

end HintFuzz.Wrapper

namespace HintFuzz

open Wrapper

/-- A wrapper lists the first numbers, and its program has just these placeholders, in order. -/
structure Wrapper.Numbered (wrapper : Wrapper) : Prop where
  ids : wrapper.placeholderIds = List.range wrapper.placeholders.length
  tree : wrapper.program.placeholders = wrapper.placeholderIds

/-- Synthesis numbers the placeholders of a program in the order in which they stand there. -/
theorem Hint.numbered_of_synthesize {hint : Hint} {signature : Signature} {wrapper : Wrapper}
    (built : hint.synthesize signature = .ok wrapper) : wrapper.Numbered := by
  have placeholders := (Hint.synthesize_text built).2
  constructor
  · rw [Wrapper.placeholderIds, placeholders, ids_placeholdersOf, placeholdersOf, List.length_map,
      List.length_zipIdx]
  · rw [(Hint.synthesize_ok built).2, placeholders_programOf, Wrapper.placeholderIds, placeholders,
      ids_placeholdersOf]

end HintFuzz
