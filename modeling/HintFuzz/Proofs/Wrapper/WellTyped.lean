import HintFuzz.Proofs.Hint.Signature
import HintFuzz.Proofs.Monad.Steps
import HintFuzz.Proofs.Wrapper.Synthesis
import HintFuzz.Proofs.Wrapper.Types
import Mathlib.Data.List.Perm.Basic

/-!
# Wrapper programs are well typed

The program around a hint is well scoped and well typed for every mix of input
and output roots (`programOf_wellTyped`): the values of inputs fill exactly the
leaves of their types, and inputs, parameters, locals and results are listed in
the same order wherever they occur (`programOf_isAround`).
-/

namespace HintFuzz.Wrapper

open Cairo

/-! ### Values -/

variable {structs : List StructDef} {first : PlaceholderId}

/-- Placeholders fit a list of members that are felts. -/
theorem fieldsHaveType_placeholders (members : List String) (first : PlaceholderId) :
    FieldsHaveType structs
      ((members.zipIdx first).map fun (member, id) => (member, .placeholder id))
      (members.map fun member => (member, CairoType.felt.name)) := by
  induction members generalizing first with
  | nil => exact .nil
  | cons member rest ih => exact .cons (.placeholder first) (ih (first + 1))

/-- A flat value has the type of a struct of felts with its name and members. -/
theorem hasType_flatValue {name : String} {members : List String}
    (declared : ⟨name, members.map fun member => (member, CairoType.felt.name)⟩ ∈ structs) :
    (flatValue name members first).HasType structs name :=
  .construct declared (fieldsHaveType_placeholders members first)

/-- The value of an input has the input's type where the type, and big integers
for a point of them, are declared. -/
theorem hasType_inputValue {type : CairoType}
    (declared : type ≠ .felt → structDef type ∈ structs)
    (limbs : type = .known .secpPoint → structDef (.known .bigInt3) ∈ structs) :
    (inputValue first type).HasType structs type.name := by
  cases type with
  | felt => exact .placeholder first
  | known known =>
      cases known with
      | bigInt3 => exact hasType_flatValue (declared (by decide))
      | uint256 => exact hasType_flatValue (declared (by decide))
      | ecPoint => exact hasType_flatValue (declared (by decide))
      | secpPoint =>
          have coordinate (first : PlaceholderId) :
              (flatValue Known.bigInt3.name Cairo.limbs first).HasType structs
                Known.bigInt3.name :=
            hasType_flatValue (limbs rfl)
          exact .construct (declared (by decide))
            (.cons (coordinate _) (.cons (coordinate _) .nil))
  | generated name members =>
      have declaration : structDef (.generated name members) =
          ⟨name, members.map fun member => (member, CairoType.felt.name)⟩ := by
        rw [structDef, CairoType.members, List.map_map]
        rfl
      have names : (CairoType.generated name members).members.map Prod.fst = members := by
        rw [CairoType.members, List.map_map]
        exact List.map_id' _
      have value : inputValue first (.generated name members) = flatValue name members first := by
        rw [inputValue, names]
        · rfl
        · intro same
          cases same
        · intro same
          cases same
      rw [value]
      exact hasType_flatValue (declaration ▸ declared fun same => by cases same)

/-! ### Scopes -/

/-- A typed root as an entry of a scope. -/
def TypedRoot.entry (typed : TypedRoot) : String × String :=
  (typed.root.name, typed.type.name)

/-- The names of typed roots that are in scope refer to values of their types. -/
theorem forall₂_refers {typed : List TypedRoot} {scope : Scope}
    (bound : ∀ root ∈ typed, root.entry ∈ scope) :
    List.Forall₂ (Expr.Refers scope) (typed.map fun root => .ident root.root.name)
      (typed.map fun root => root.type.name) := by
  rw [List.forall₂_map_left_iff, List.forall₂_map_right_iff, List.forall₂_same]
  intro root member
  exact ⟨root.root.name, rfl, bound root member⟩

/-- A typed root is an input or an output. -/
theorem inputs_append_outputs_perm (typed : List TypedRoot) :
    (typed.filter (fun root => root.root.role = .input) ++
      typed.filter (fun root => root.root.role = .output)).Perm typed := by
  have opposite : (fun root : TypedRoot => decide (root.root.role = .output)) =
      fun root => !decide (root.root.role = .input) := by
    funext root
    cases root.root.role <;> rfl
  rw [opposite]
  exact List.filter_append_perm _ typed

/-! ### The program -/

variable {lines : List String} {typed inputs outputs : List TypedRoot} {root : TypedRoot}

/-- The struct of a root is declared. -/
theorem structDef_mem (member : root ∈ typed) (struct : root.type ≠ .felt) :
    structDef root.type ∈ (programOf lines typed).structs :=
  List.mem_map_of_mem (mem_structTypes.mpr (.inl ⟨List.mem_map_of_mem member, struct⟩))

/-- Big integers are declared wherever a root is a point of them. -/
theorem bigInt3_mem (member : root ∈ typed) (point : root.type = .known .secpPoint) :
    structDef (.known .bigInt3) ∈ (programOf lines typed).structs :=
  List.mem_map_of_mem (mem_structTypes.mpr (.inr ⟨rfl, point ▸ List.mem_map_of_mem member⟩))

/-- The type of a root can be named. -/
theorem declares_type (member : root ∈ typed) :
    (programOf lines typed).Declares root.type.name := by
  by_cases felt : root.type = .felt
  · exact .inl (congrArg CairoType.name felt)
  · exact .inr (List.mem_map_of_mem (f := StructDef.name) (structDef_mem member felt))

/-- The value of an input has the type of its root. -/
theorem hasType_input (member : root ∈ typed) :
    (inputValue first root.type).HasType (programOf lines typed).structs root.type.name :=
  hasType_inputValue (structDef_mem member) (bigInt3_mem member)

/-- The statements that bind inputs bind one name each. -/
theorem bindInputs_binds (among : ∀ root ∈ inputs, root ∈ typed) (first : PlaceholderId) :
    List.Forall₂ (Statement.Introduces (programOf lines typed)) (bindInputs first inputs)
      (inputs.map TypedRoot.entry) := by
  induction inputs generalizing first with
  | nil => exact .nil
  | cons input rest ih =>
      refine .cons ?_ (ih (fun root member => among root (List.mem_cons_of_mem _ member)) _)
      intro before distinct
      exact .value (hasType_input (among input List.mem_cons_self)) distinct

/-- The statements that declare outputs bind one name each. -/
theorem locals_bind (among : ∀ root ∈ outputs, root ∈ typed) :
    List.Forall₂ (Statement.Introduces (programOf lines typed))
      (outputs.map fun output => .localVar output.root.name output.type.name)
      (outputs.map TypedRoot.entry) := by
  rw [List.forall₂_map_left_iff, List.forall₂_map_right_iff, List.forall₂_same]
  intro root member before distinct
  exact .localVar (declares_type (among root member)) distinct

/-- The call of the hint function binds every output. -/
theorem bindsResults_callHint :
    BindsResults (.call hintFunction (inputs.map fun input => .ident input.root.name))
      (outputs.map fun output => output.type.name) (callHint inputs outputs)
      (outputs.map TypedRoot.entry) := by
  match outputs with
  | [] => exact .none
  | [output] => exact .one output.root.name output.type.name
  | first :: second :: rest =>
      have entries : (first :: second :: rest).map TypedRoot.entry =
          ((first :: second :: rest).map fun output => output.root.name).zip
            ((first :: second :: rest).map fun output => output.type.name) :=
        List.zip_map'.symm
      rw [entries]
      refine .many ?_ ?_
      · exact Nat.le_add_left 2 (rest.map _).length
      · simp only [List.map_cons, List.length_cons, List.length_map]

/-- The function that holds the hint is right. -/
theorem hintHolder_checks (inputsAmong : ∀ root ∈ inputs, root ∈ typed)
    (outputsAmong : ∀ root ∈ outputs, root ∈ typed)
    (distinct : Scope.Distinct ((inputs ++ outputs).map TypedRoot.entry)) :
    (hintHolder lines inputs outputs).Checks (programOf lines typed) := by
  have params : (hintHolder lines inputs outputs).scope = inputs.map TypedRoot.entry := by
    rw [Function.scope, hintHolder, List.map_map]
    rfl
  rw [List.map_append] at distinct
  have rearranged : ((outputs.map TypedRoot.entry).reverse ++ inputs.map TypedRoot.entry).Perm
      (inputs.map TypedRoot.entry ++ outputs.map TypedRoot.entry) :=
    ((List.reverse_perm _).append_right _).trans List.perm_append_comm
  refine ⟨?_, ?_, ?_, ?_⟩
  · rw [params]
    exact List.Nodup.sublist ((List.sublist_append_left _ _).map Prod.fst) distinct
  · intro param member
    obtain ⟨input, found, rfl⟩ := List.mem_map.mp member
    exact declares_type (inputsAmong input found)
  · intro type member
    obtain ⟨output, found, rfl⟩ := List.mem_map.mp member
    exact declares_type (outputsAmong output found)
  · rw [params]
    refine .cons .allocLocals ?_
    refine BodyChecks.bind (locals_bind outputsAmong) (distinct.perm rearranged.symm) ?_
    refine .cons (.hint lines) (.ret (forall₂_refers ?_))
    intro root member
    exact List.mem_append_left _ (List.mem_reverse.mpr (List.mem_map_of_mem member))

/-- The function `main` is right where the function that holds the hint is known. -/
theorem entry_checks (inputsAmong : ∀ root ∈ inputs, root ∈ typed)
    (known : hintHolder lines inputs outputs ∈ (programOf lines typed).functions)
    (distinct : Scope.Distinct ((inputs ++ outputs).map TypedRoot.entry)) :
    (entry inputs outputs).Checks (programOf lines typed) := by
  rw [List.map_append] at distinct
  have bound : (inputs.map TypedRoot.entry).reverse ++ (entry inputs outputs).scope =
      (inputs.map TypedRoot.entry).reverse := List.append_nil _
  have rearranged : (outputs.map TypedRoot.entry ++ (inputs.map TypedRoot.entry).reverse).Perm
      (inputs.map TypedRoot.entry ++ outputs.map TypedRoot.entry) :=
    ((List.reverse_perm _).append_left _).trans List.perm_append_comm
  have all := distinct.perm rearranged.symm
  refine ⟨List.nodup_nil, nofun, nofun, ?_⟩
  refine BodyChecks.bind (bindInputs_binds inputsAmong 0) ?_ ?_
  · rw [bound]
    exact List.Nodup.sublist ((List.sublist_append_right _ _).map Prod.fst) all
  · rw [bound]
    have arguments : List.Forall₂ (Expr.Refers (inputs.map TypedRoot.entry).reverse)
        (inputs.map fun input => .ident input.root.name)
        ((hintHolder lines inputs outputs).params.map Param.type) := by
      rw [hintHolder, List.map_map]
      refine forall₂_refers fun root member => ?_
      exact List.mem_reverse.mpr (List.mem_map_of_mem member)
    exact .cons (.call known arguments bindsResults_callHint all) (.ret .nil)

/-- The program around a hint is well typed if its roots have different names. -/
theorem programOf_wellTyped {roots : List RootVariable}
    (distinct : (roots.map RootVariable.name).Nodup) :
    (programOf lines (typedRoots roots)).WellTyped := by
  let inputs := (typedRoots roots).filter fun typed => typed.root.role = .input
  let outputs := (typedRoots roots).filter fun typed => typed.root.role = .output
  have names : (typedRoots roots).map (fun typed => typed.root.name) =
      roots.map RootVariable.name := by
    rw [typedRoots, List.map_map]
    rfl
  have ordered : Scope.Distinct ((typedRoots roots).map TypedRoot.entry) := by
    rw [Scope.Distinct, List.map_map]
    exact names ▸ distinct
  have entries : Scope.Distinct ((inputs ++ outputs).map TypedRoot.entry) :=
    ordered.perm ((inputs_append_outputs_perm _).symm.map TypedRoot.entry)
  have inputsAmong : ∀ root ∈ inputs, root ∈ typedRoots roots :=
    fun root member => (List.mem_filter.mp member).1
  have outputsAmong : ∀ root ∈ outputs, root ∈ typedRoots roots :=
    fun root member => (List.mem_filter.mp member).1
  have membersNodup : ∀ members ∈ generatedMembers roots, members.Nodup := by
    intro members asked
    obtain ⟨root, _, shape⟩ := mem_generatedMembers.mp asked
    exact root.nodup_of_shape_generated shape
  have listed : ∀ type ∈ (typedRoots roots).map TypedRoot.type,
      Listed (generatedMembers roots) type := by
    intro type member
    obtain ⟨typed, typedMember, rfl⟩ := List.mem_map.mp member
    obtain ⟨root, rootMember, rfl⟩ := List.mem_map.mp typedMember
    exact listed_typeOf rootMember
  refine ⟨structsCheck_structTypes membersNodup listed, ?_, ?_⟩
  · have names : (programOf lines (typedRoots roots)).functions.map Function.name =
        [entryFunction, hintFunction] := rfl
    rw [names]
    decide
  · intro function member
    rcases List.mem_cons.mp member with rfl | later
    · exact entry_checks inputsAmong (List.mem_cons_of_mem _ List.mem_cons_self) entries
    · cases List.mem_singleton.mp later
      exact hintHolder_checks inputsAmong outputsAmong entries

/-! ### The two functions -/

/-- The program around a hint's lines: `main` binds each of `inits` to a value of
its own, calls the function that holds the hint and returns nothing; that function
declares `locals`, holds the hint and returns its locals.  Every argument is a name
that an earlier `let` has bound to a value of the parameter's type, and no name is
bound twice in either function. -/
inductive IsAround (lines : List String) : Program → Prop
  | intro {structs : List StructDef} {inits : List (String × Expr)} {args : List Expr}
      {call : Statement} {bound locals : Scope} {params : List Param}
      (arguments : List.Forall₂ (fun arg param => ∃ name value, arg = .ident name ∧
        (name, value) ∈ inits ∧ value.HasType structs param.type) args params)
      (results : BindsResults (.call hintFunction args) (locals.map Prod.snd) call bound)
      (main_distinct : (inits.map Prod.fst ++ bound.map Prod.fst).Nodup)
      (holder_distinct : (params.map Param.name ++ locals.map Prod.fst).Nodup) :
      IsAround lines
        { structs
          functions :=
            [{ name := entryFunction
               params := []
               returns := []
               body := inits.map (fun init => .bind (.single init.1) init.2) ++ [call, .ret []] },
             { name := hintFunction
               params
               returns := locals.map Prod.snd
               body := .allocLocals :: locals.map (fun entry => .localVar entry.1 entry.2) ++
                 [.hint lines, .ret (locals.map fun entry => .ident entry.1)] }] }

/-- The names of inputs with the values that they are bound to. -/
def inputInits (first : PlaceholderId) : List TypedRoot → List (String × Expr)
  | [] => []
  | input :: rest =>
    (input.root.name, inputValue first input.type) ::
      inputInits (first + input.type.leafCount) rest

private theorem bindInputs_eq_map (first : PlaceholderId) (inputs : List TypedRoot) :
    bindInputs first inputs =
      (inputInits first inputs).map fun init => .bind (.single init.1) init.2 := by
  induction inputs generalizing first with
  | nil => rfl
  | cons input rest ih => rw [bindInputs, inputInits, List.map_cons, ih]

private theorem inputInits_names (first : PlaceholderId) (inputs : List TypedRoot) :
    (inputInits first inputs).map Prod.fst = inputs.map fun input => input.root.name := by
  induction inputs generalizing first with
  | nil => rfl
  | cons input rest ih => rw [inputInits, List.map_cons, List.map_cons, ih]

/-- Every input is bound to a value of its type. -/
theorem mem_inputInits {input : TypedRoot} (member : input ∈ inputs) (first : PlaceholderId) :
    ∃ id, (input.root.name, inputValue id input.type) ∈ inputInits first inputs := by
  induction inputs generalizing first with
  | nil => cases member
  | cons head rest ih =>
      rcases List.mem_cons.mp member with rfl | later
      · exact ⟨first, List.mem_cons_self⟩
      · obtain ⟨id, found⟩ := ih later (first + head.type.leafCount)
        exact ⟨id, List.mem_cons_of_mem _ found⟩

/-- A program made of roots with different names is one around the hint's lines. -/
theorem programOf_isAround (distinct : (typed.map fun root => root.root.name).Nodup) :
    IsAround lines (programOf lines typed) := by
  let inputs := typed.filter fun root => root.root.role = .input
  let outputs := typed.filter fun root => root.root.role = .output
  have names : (inputs.map (fun root => root.root.name) ++
      outputs.map fun root => root.root.name).Nodup := by
    rw [← List.map_append]
    exact ((inputs_append_outputs_perm typed).map _).nodup_iff.mpr distinct
  have asEntries {β : Type} (f : String × String → β) :
      (outputs.map fun root => f root.entry) = (outputs.map TypedRoot.entry).map f :=
    List.map_map.symm
  have main : entry inputs outputs =
      { name := entryFunction
        params := []
        returns := []
        body := (inputInits 0 inputs).map (fun init => .bind (.single init.1) init.2) ++
          [callHint inputs outputs, .ret []] } := by
    rw [entry, bindInputs_eq_map]
  have holder : hintHolder lines inputs outputs =
      { name := hintFunction
        params := inputs.map fun input => ⟨input.root.name, input.type.name⟩
        returns := (outputs.map TypedRoot.entry).map Prod.snd
        body := .allocLocals ::
          (outputs.map TypedRoot.entry).map (fun entry => .localVar entry.1 entry.2) ++
          [.hint lines, .ret ((outputs.map TypedRoot.entry).map fun entry => .ident entry.1)] } := by
    rw [← asEntries, ← asEntries, ← asEntries]
    rfl
  have program : programOf lines typed =
      ⟨(structTypes (typed.map TypedRoot.type)).map structDef,
        [entry inputs outputs, hintHolder lines inputs outputs]⟩ := rfl
  rw [program, main, holder]
  refine .intro ?_ (asEntries Prod.snd ▸ bindsResults_callHint) ?_ ?_
  · rw [List.forall₂_map_left_iff, List.forall₂_map_right_iff, List.forall₂_same]
    intro input member
    obtain ⟨id, found⟩ := mem_inputInits member 0
    have value : (inputValue id input.type).HasType (programOf lines typed).structs
        input.type.name := hasType_input (List.mem_filter.mp member).1
    exact ⟨_, _, rfl, found, value⟩
  · rw [inputInits_names, ← asEntries]
    exact names
  · rw [List.map_map, ← asEntries]
    exact names

end HintFuzz.Wrapper

namespace HintFuzz

open Cairo Wrapper

/-- **Wrapper programs are well typed.** Every hint that has a signature and a
wrapper has a wrapper whose program is well scoped and well typed, with a `main`
that builds the inputs of the hint and binds its outputs. -/
theorem Hint.synthesize_wellTyped {hint : Hint} {signature : Signature} {wrapper : Wrapper}
    (analyzed : hint.analyze = .ok signature) (built : hint.synthesize signature = .ok wrapper) :
    wrapper.program.WellTyped ∧ IsAround hint.lines wrapper.program := by
  obtain ⟨-, program⟩ := Hint.synthesize_ok built
  have distinct := Hint.analyze_names_nodup analyzed
  rw [program]
  refine ⟨programOf_wellTyped distinct, programOf_isAround ?_⟩
  rw [typedRoots, List.map_map]
  exact distinct

/-- The wrapper of a hint with a point of big integers, a struct of its own, a
felt and two outputs. -/
theorem Hint.synthesize_wellTyped_point :
    ∃ signature wrapper,
      Hint.analyze ⟨4, ["ids.r.d0 = ids.p.x.d0 + ids.b.len", "ids.s.low = ids.k"]⟩ =
        .ok signature ∧
      Hint.synthesize ⟨4, ["ids.r.d0 = ids.p.x.d0 + ids.b.len", "ids.s.low = ids.k"]⟩ signature =
        .ok wrapper ∧
      wrapper.program.WellTyped ∧
      IsAround ["ids.r.d0 = ids.p.x.d0 + ids.b.len", "ids.s.low = ids.k"] wrapper.program := by
  let signature : Signature := ⟨4,
    [⟨"b", .input, [["len"]], false⟩, ⟨"k", .input, [[]], false⟩,
     ⟨"p", .input, [["x", "d0"]], false⟩, ⟨"r", .output, [["d0"]], false⟩,
     ⟨"s", .output, [["low"]], false⟩]⟩
  have analyzed : Hint.analyze ⟨4, ["ids.r.d0 = ids.p.x.d0 + ids.b.len", "ids.s.low = ids.k"]⟩ =
      .ok signature := by decide +kernel
  have succeeds : (Hint.synthesize
      ⟨4, ["ids.r.d0 = ids.p.x.d0 + ids.b.len", "ids.s.low = ids.k"]⟩ signature).isOk = true := by
    decide +kernel
  obtain ⟨wrapper, built⟩ := exists_ok_of_isOk succeeds
  exact ⟨signature, wrapper, analyzed, built, Hint.synthesize_wellTyped analyzed built⟩

end HintFuzz
