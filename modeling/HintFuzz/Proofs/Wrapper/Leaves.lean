import HintFuzz.Proofs.Cairo.Vocabulary
import HintFuzz.Proofs.Hint.Analysis
import HintFuzz.Proofs.Monad.Steps
import HintFuzz.Proofs.Trial.Plan
import HintFuzz.Proofs.Wrapper.Synthesis
import HintFuzz.Proofs.Wrapper.Types
import Mathlib.Data.List.Nodup

/-!
# The felts of inputs

A wrapper has one placeholder for each felt of its inputs (`Hint.placeholderRule`).  They are
numbered on from member to member and from input to input (`Wrapper.memberValues`), in the order of
the leaves of the types, so that the fields that a placeholder is listed with lead to it in the
value that `main` gives the input (`Wrapper.hasAt_inputValue_iff`).
-/

namespace HintFuzz.Cairo

/-- Fields lead from a value to a part of it, from member to member. -/
inductive Expr.HasAt : Expr → List String → Expr → Prop
  | here (value : Expr) : HasAt value [] value
  | member {type name : String} {fields : List (String × Expr)} {value part : Expr}
      {path : List String} (member : (name, value) ∈ fields) (inside : HasAt value path part) :
      HasAt (.construct type fields) (name :: path) part

section Parts

variable {path : List String} {id : PlaceholderId}

private theorem Expr.hasAt_construct_iff {type : String} {fields : List (String × Expr)} :
    (Expr.construct type fields).HasAt path (.placeholder id) ↔
      ∃ name value rest, path = name :: rest ∧ (name, value) ∈ fields ∧
        value.HasAt rest (.placeholder id) := by
  constructor
  · intro found
    cases found with
    | member member inside => exact ⟨_, _, _, rfl, member, inside⟩
  · rintro ⟨name, value, rest, rfl, member, inside⟩
    exact .member member inside

private theorem Expr.hasAt_placeholder_iff {other : PlaceholderId} :
    (Expr.placeholder other).HasAt path (.placeholder id) ↔ path = [] ∧ id = other := by
  constructor
  · intro found
    cases found with
    | here => exact ⟨rfl, rfl⟩
  · rintro ⟨rfl, rfl⟩
    exact .here _

private theorem Expr.not_hasAt_call {function : String} {args : List Expr} :
    ¬(Expr.call function args).HasAt path (.placeholder id) :=
  nofun

end Parts

/-- Leaves are listed once where the members of a generated struct are. -/
theorem CairoType.nodup_leaves {type : CairoType}
    (distinct : ∀ name members, type = .generated name members → members.Nodup) :
    type.leaves.Nodup := by
  cases type with
  | felt => decide
  | known struct => cases struct <;> decide
  | generated name members =>
      have leaves : (CairoType.generated name members).leaves = members.map fun member => [member] :=
        List.map_map
      rw [leaves]
      exact (distinct name members rfl).map fun _ _ same => List.singleton_inj.mp same

end HintFuzz.Cairo

namespace HintFuzz

/-- `main` binds a name to a value. -/
def Cairo.Program.Initializes (program : Cairo.Program) (name : String) (value : Cairo.Expr) : Prop :=
  ∃ main ∈ program.functions, main.name = Wrapper.entryFunction ∧
    .bind (.single name) value ∈ main.body

namespace Wrapper

open Cairo

variable {first id : PlaceholderId} {path : List String} {name : String} {inputs : List TypedRoot}

/-! ### Values -/

/-- The values of members, with placeholders numbered on from member to member. -/
def memberValues (first : PlaceholderId) : List (String × CairoType) → List (String × Expr)
  | [] => []
  | (name, type) :: rest =>
    (name, inputValue first type) :: memberValues (first + type.leafCount) rest

private theorem memberValues_felts (names : List String) (first : PlaceholderId) :
    memberValues first (names.map (·, .felt)) =
      (names.zipIdx first).map fun (member, id) => (member, .placeholder id) := by
  induction names generalizing first with
  | nil => rfl
  | cons name rest ih =>
      rw [List.map_cons, memberValues, List.zipIdx_cons, List.map_cons]
      exact congrArg _ (ih (first + 1))

/-- The value of a struct is made of the values of its members. -/
theorem inputValue_of_ne_felt {type : CairoType} (struct : type ≠ .felt) :
    inputValue first type = .construct type.name (memberValues first type.members) := by
  have flat {type : CairoType} {names : List String} (felts : type.OfFelts names) :
      flatValue type.name (type.members.map Prod.fst) first =
        .construct type.name (memberValues first type.members) := by
    have members : (names.map (·, CairoType.felt)).map Prod.fst = names := by
      rw [List.map_map]
      exact List.map_id' names
    rw [flatValue, felts.members, members, memberValues_felts]
  match type with
  | .felt => exact absurd rfl struct
  | .known .bigInt3 => exact flat ofFelts_bigInt3
  | .known .uint256 => exact flat ofFelts_uint256
  | .known .ecPoint => exact flat ofFelts_ecPoint
  | .known .secpPoint => rfl
  | .generated name members => exact flat (ofFelts_generated name members)

private theorem mem_zipIdx_map {α β : Type} {make : α → β} {items : List α} {made : β} :
    (made, id) ∈ (items.map make).zipIdx first ↔
      ∃ item, (item, id) ∈ items.zipIdx first ∧ make item = made := by
  simp [List.zipIdx_map, List.mem_map]

/-- A placeholder stands in the value of a member behind the placeholders of the members before. -/
theorem exists_mem_memberValues_iff {members : List (String × CairoType)}
    (each : ∀ member ∈ members, ∀ first path, (inputValue first member.2).HasAt path (.placeholder id) ↔
      (path, id) ∈ member.2.leaves.zipIdx first) :
    (∃ name value rest, path = name :: rest ∧ (name, value) ∈ memberValues first members ∧
        value.HasAt rest (.placeholder id)) ↔
      (path, id) ∈
        (members.flatMap fun member => member.2.leaves.map (member.1 :: ·)).zipIdx first := by
  induction members generalizing first with
  | nil => simp [memberValues]
  | cons member others ih =>
      have own := each member List.mem_cons_self first
      have later := @ih (first + member.2.leafCount) fun other listed =>
        each other (List.mem_cons_of_mem _ listed)
      rw [List.flatMap_cons, List.zipIdx_append, List.mem_append, mem_zipIdx_map, List.length_map,
        ← CairoType.leafCount, ← later, memberValues]
      constructor
      · rintro ⟨name, value, rest, rfl, listed, inside⟩
        rcases List.mem_cons.mp listed with same | behind
        · cases same
          exact .inl ⟨rest, (own rest).mp inside, rfl⟩
        · exact .inr ⟨name, value, rest, rfl, behind, inside⟩
      · rintro (⟨rest, found, rfl⟩ | ⟨name, value, rest, rfl, behind, inside⟩)
        · exact ⟨member.1, _, rest, rfl, List.mem_cons_self, (own rest).mpr found⟩
        · exact ⟨name, value, rest, rfl, List.mem_cons_of_mem _ behind, inside⟩

/-- **Placeholders stand at the leaves of a value**, in the order of the leaves. -/
theorem hasAt_inputValue_iff (type : CairoType) (first : PlaceholderId) (path : List String) :
    (inputValue first type).HasAt path (.placeholder id) ↔ (path, id) ∈ type.leaves.zipIdx first := by
  induction type using CairoType.induction generalizing first path with
  | felt => simp [inputValue, Expr.hasAt_placeholder_iff, CairoType.leaves]
  | struct type struct ih =>
      rw [inputValue_of_ne_felt struct, Expr.hasAt_construct_iff, CairoType.leaves_of_ne_felt struct]
      exact exists_mem_memberValues_iff ih

/-! ### Inputs -/

private theorem mem_zipIdx_inputLeaves_cons {input : TypedRoot} :
    (⟨name, path, .input⟩, id) ∈ (inputLeaves (input :: inputs)).zipIdx first ↔
      input.root.name = name ∧ (path, id) ∈ input.type.leaves.zipIdx first ∨
        (⟨name, path, .input⟩, id) ∈ (inputLeaves inputs).zipIdx (first + input.type.leafCount) := by
  rw [inputLeaves, List.flatMap_cons, List.zipIdx_append, List.mem_append, mem_zipIdx_map,
    List.length_map]
  simp only [VariableRef.mk.injEq, and_true]
  constructor
  · rintro (⟨leaf, found, rfl, rfl⟩ | later)
    · exact .inl ⟨rfl, found⟩
    · exact .inr later
  · rintro (⟨same, found⟩ | later)
    · exact .inl ⟨path, found, same, rfl⟩
    · exact .inr later

/-- Inputs are bound to values in which each placeholder stands at its leaf. -/
theorem exists_mem_bindInputs_iff :
    (∃ value, .bind (.single name) value ∈ bindInputs first inputs ∧
        value.HasAt path (.placeholder id)) ↔
      (⟨name, path, .input⟩, id) ∈ (inputLeaves inputs).zipIdx first := by
  induction inputs generalizing first with
  | nil => simp [bindInputs, inputLeaves]
  | cons input others ih =>
      rw [mem_zipIdx_inputLeaves_cons, ← ih, ← hasAt_inputValue_iff, bindInputs]
      constructor
      · rintro ⟨value, bound, found⟩
        rcases List.mem_cons.mp bound with same | later
        · cases same
          exact .inl ⟨rfl, found⟩
        · exact .inr ⟨value, later, found⟩
      · rintro (⟨rfl, found⟩ | ⟨value, later, found⟩)
        · exact ⟨_, List.mem_cons_self, found⟩
        · exact ⟨value, List.mem_cons_of_mem _ later, found⟩

/-- The call binds no name to a value with placeholders. -/
theorem not_hasAt_of_bind_eq_callHint {outputs : List TypedRoot} {value : Expr}
    (same : .bind (.single name) value = callHint inputs outputs) :
    ¬value.HasAt path (.placeholder id) := by
  unfold callHint at same
  match outputs with
  | [] => cases same
  | [_] =>
      cases same
      exact Expr.not_hasAt_call
  | _ :: _ :: _ => cases same

/-- A placeholder stands in `main` where it is listed, and nowhere else. -/
theorem exists_initializes_iff {lines : List String} {roots : List TypedRoot} :
    (∃ value, (programOf lines roots).Initializes name value ∧ value.HasAt path (.placeholder id)) ↔
      ⟨id, name, path, .input⟩ ∈
        placeholdersOf (roots.filter fun typed => typed.root.role = .input) := by
  have listed (inputs : List TypedRoot) : ⟨id, name, path, .input⟩ ∈ placeholdersOf inputs ↔
      (⟨name, path, .input⟩, id) ∈ (inputLeaves inputs).zipIdx 0 := by
    simp [placeholdersOf]
  rw [listed, ← exists_mem_bindInputs_iff]
  constructor
  · rintro ⟨value, ⟨main, member, named, bound⟩, found⟩
    rcases List.mem_cons.mp member with rfl | later
    · rcases List.mem_append.mp bound with input | rest
      · exact ⟨value, input, found⟩
      · rcases List.mem_cons.mp rest with call | last
        · exact absurd found (not_hasAt_of_bind_eq_callHint call)
        · cases List.mem_singleton.mp last
    · cases List.mem_singleton.mp later
      have other : hintFunction ≠ entryFunction := by decide
      exact absurd named other
  · rintro ⟨value, bound, found⟩
    exact ⟨value, ⟨_, List.mem_cons_self, rfl, List.mem_append_left _ bound⟩, found⟩

/-- Inputs with different names have different leaves. -/
theorem nodup_inputLeaves (names : (inputs.map fun input => input.root.name).Nodup)
    (leaves : ∀ input ∈ inputs, input.type.leaves.Nodup) : (inputLeaves inputs).Nodup := by
  rw [inputLeaves, List.nodup_flatMap]
  constructor
  · intro input member
    exact (leaves input member).map fun _ _ same => (VariableRef.mk.inj same).2.1
  · refine (List.pairwise_map.mp names).imp fun different => ?_
    intro reference first second
    obtain ⟨_, -, rfl⟩ := List.mem_map.mp first
    obtain ⟨_, -, same⟩ := List.mem_map.mp second
    exact different (VariableRef.mk.inj same).1.symm

end Wrapper

open Cairo Wrapper

/-- The inputs of a signature with their types. -/
def Signature.typedInputs (signature : Signature) : List TypedRoot :=
  (typedRoots signature.roots).filter fun typed => typed.root.role = .input

/-- The placeholders of a wrapper are the felts of the inputs of its signature. -/
structure Wrapper.PlaceholderRule (wrapper : Wrapper) (signature : Signature) : Prop where
  ids : wrapper.placeholders.map Placeholder.id = List.range wrapper.placeholders.length
  tree : wrapper.program.placeholders = wrapper.placeholders.map Placeholder.id
  count : wrapper.placeholders.length =
    (signature.typedInputs.map fun input => input.type.leafCount).foldr (· + ·) 0
  ordered : (signature.typedInputs.map fun input => input.root.name).Pairwise (· < ·)
  bindings : wrapper.placeholders.map Placeholder.binding =
    signature.typedInputs.flatMap fun input =>
      input.type.leaves.map fun path => ⟨input.root.name, path, .input⟩
  leaves : ∀ type : CairoType, type.LeafRule
  distinct : (wrapper.placeholders.map Placeholder.binding).Nodup
  /-- A placeholder stands where its binding says, and nowhere else. -/
  stands_iff : ∀ id name path,
    (∃ value, wrapper.program.Initializes name value ∧ value.HasAt path (.placeholder id)) ↔
      ⟨id, name, path, .input⟩ ∈ wrapper.placeholders
  /-- The accesses of an input are honoured, unless it was coerced. -/
  covers : ∀ reference ∈ wrapper.inputs,
    (∀ root ∈ signature.roots, root.name = reference.root → ∀ type, root.shape ≠ .known type false) →
      ∃ placeholder ∈ wrapper.placeholders, placeholder.binding.root = reference.root ∧
        reference.path <+: placeholder.binding.path

section Rule

variable {hint : Hint} {signature : Signature} {wrapper : Wrapper} {root : RootVariable}

private theorem Signature.mem_typedInputs {input : TypedRoot} : input ∈ signature.typedInputs ↔
    ∃ root ∈ signature.roots, root.role = .input ∧
      input = ⟨root, typeOf (generatedMembers signature.roots) root⟩ := by
  rw [typedInputs, List.mem_filter, typedRoots, List.mem_map]
  constructor
  · rintro ⟨⟨root, member, rfl⟩, role⟩
    exact ⟨root, member, of_decide_eq_true role, rfl⟩
  · rintro ⟨root, member, role, rfl⟩
    exact ⟨⟨root, member, rfl⟩, decide_eq_true role⟩

/-- The inputs of a signature are ascending by name. -/
theorem Signature.ordered_typedInputs (analyzed : hint.analyze = .ok signature) :
    (signature.typedInputs.map fun input => input.root.name).Pairwise (· < ·) := by
  have roots : ((typedRoots signature.roots).map fun input => input.root.name).Pairwise (· < ·) := by
    rw [typedRoots, List.map_map, (Hint.analyze_ok analyzed).2]
    exact Hint.pairwise_names_allRoots hint
  exact roots.sublist (List.filter_sublist.map _)

private theorem Signature.nodup_leaves_typedInputs :
    ∀ input ∈ signature.typedInputs, input.type.leaves.Nodup := by
  intro input member
  obtain ⟨root, rootMember, -, rfl⟩ := mem_typedInputs.mp member
  refine CairoType.nodup_leaves fun name members generated => ?_
  have listed : Listed (generatedMembers signature.roots) (.generated name members) :=
    generated ▸ listed_typeOf rootMember
  obtain ⟨other, -, shape⟩ := mem_generatedMembers.mp listed.1
  exact other.nodup_of_shape_generated shape

private theorem Cairo.CairoType.leaves_ne_nil {type : CairoType}
    (made : ∀ name members, type ≠ .generated name members) : type.leaves ≠ [] := by
  cases type with
  | felt => decide
  | known struct => cases struct <;> decide
  | generated name members => exact absurd rfl (made name members)

/-- Each access of a root that has a type and was not coerced leads to a leaf, or on to one. -/
theorem RootVariable.exists_leaf (uniform : ∀ path ∈ root.paths, path.length = root.arity)
    (typed : ∀ detail, root.shape ≠ .unresolvable detail)
    (kept : ∀ type, root.shape ≠ .known type false) (generated : List (List String))
    {path : List String} (access : path ∈ root.paths) :
    ∃ leaf ∈ (typeOf generated root).leaves, path <+: leaf := by
  have rule := root.shapeRule (List.ne_nil_of_mem access) uniform
  cases shape : root.shape with
  | unresolvable detail => exact absurd shape (typed detail)
  | generated members =>
      have honours := (rule.generated members shape).2.2 (generatedName (generated.idxOf members))
      rw [typeOf, shape]
      exact ⟨path, leads_iff.mp (honours path access), List.prefix_rfl⟩
  | known type exact =>
      have type_eq : typeOf generated root = type := by rw [typeOf, shape]
      rw [type_eq]
      cases exact with
      | false => exact absurd shape (kept type)
      | true =>
          by_cases bare : root.arity = 0
          · -- A bare access goes down no field, so every leaf of the type is one of its leaves.
            obtain ⟨leaf, member⟩ := List.exists_mem_of_ne_nil _
              (CairoType.leaves_ne_nil (root.not_generated_of_shape_known shape))
            rw [List.length_eq_zero_iff.mp ((uniform path access).trans bare)]
            exact ⟨leaf, member, List.nil_prefix⟩
          · have honours := rule.honoured type (Nat.pos_of_ne_zero bare) shape
            exact ⟨path, leads_iff.mp (honours path access), List.prefix_rfl⟩

/-- Each access of an input that was not coerced leads to a placeholder, or on to one. -/
theorem Hint.exists_inputLeaf (analyzed : hint.analyze = .ok signature)
    (built : hint.synthesize signature = .ok wrapper) (member : root ∈ signature.roots)
    (input : root.role = .input) (kept : ∀ type, root.shape ≠ .known type false)
    {path : List String} (access : path ∈ root.paths) :
    ∃ leaf, ⟨root.name, leaf, .input⟩ ∈ inputLeaves signature.typedInputs ∧ path <+: leaf := by
  have uniform : ∀ path ∈ root.paths, path.length = root.arity :=
    fun _ => Hint.length_of_mem_paths analyzed member
  have typed := (Hint.synthesize_confidence built).2 root member
  obtain ⟨leaf, leafMember, leads⟩ :=
    root.exists_leaf uniform typed kept (generatedMembers signature.roots) access
  have typedInput := Signature.mem_typedInputs.mpr ⟨root, member, input, rfl⟩
  exact ⟨leaf, List.mem_flatMap.mpr ⟨_, typedInput, List.mem_map_of_mem leafMember⟩, leads⟩

/-- **A wrapper has one placeholder for each felt of its inputs.** -/
theorem Hint.placeholderRule (prepared : hint.prepare = .ok wrapper) :
    ∃ signature, hint.analyze = .ok signature ∧ wrapper.PlaceholderRule signature := by
  obtain ⟨signature, analyzed, built⟩ := Hint.prepare_ok prepared
  obtain ⟨-, program⟩ := Hint.synthesize_ok built
  obtain ⟨-, placeholders⟩ := Hint.synthesize_text built
  have listed : wrapper.placeholders = placeholdersOf signature.typedInputs := placeholders
  have bindings : wrapper.placeholders.map Placeholder.binding =
      inputLeaves signature.typedInputs := by
    rw [listed, bindings_placeholdersOf]
  have length : wrapper.placeholders.length = (inputLeaves signature.typedInputs).length := by
    rw [← bindings, List.length_map]
  have numbered := Hint.numbered_of_synthesize built
  have ordered := Signature.ordered_typedInputs analyzed
  refine ⟨signature, analyzed, ?_⟩
  exact
    { ids := numbered.ids
      tree := numbered.tree
      count := by
        rw [length, inputLeaves, List.length_flatMap, List.sum_eq_foldr]
        simp only [List.length_map]
        rfl
      ordered
      bindings
      leaves := CairoType.leafRule
      distinct := by
        have names : (signature.typedInputs.map fun input => input.root.name).Nodup := by
          refine ordered.imp fun {left right} before same => ?_
          exact Std.Irrefl.irrefl right (same ▸ before)
        rw [bindings]
        exact nodup_inputLeaves names Signature.nodup_leaves_typedInputs
      stands_iff := by
        intro id name path
        rw [program, exists_initializes_iff, listed]
        rfl
      covers := by
        intro reference member kept
        rw [Hint.synthesize_inputs built] at member
        obtain ⟨root, input, referred⟩ := List.mem_flatMap.mp member
        obtain ⟨path, access, rfl⟩ := List.mem_map.mp referred
        obtain ⟨rootMember, role⟩ := List.mem_filter.mp input
        obtain ⟨leaf, bound, leads⟩ := Hint.exists_inputLeaf analyzed built rootMember
          (of_decide_eq_true role) (kept root rootMember rfl) access
        rw [← bindings] at bound
        obtain ⟨placeholder, placeholderMember, binding⟩ := List.mem_map.mp bound
        refine ⟨placeholder, placeholderMember, ?_⟩
        rw [binding]
        exact ⟨rfl, leads⟩ }

end Rule

/-- Two inputs of felts with a nested, a packed and a generated struct between them. -/
theorem Hint.placeholderRule_mixed :
    ∃ wrapper signature,
      Hint.prepare ⟨2, ["ids.r.d0 = ids.p.y.d1 + ids.b.len * ids.b.ptr + pack(ids.q, PRIME) - ids.k",
        "assert ids.a < 2**64"]⟩ = .ok wrapper ∧
      Hint.analyze ⟨2, ["ids.r.d0 = ids.p.y.d1 + ids.b.len * ids.b.ptr + pack(ids.q, PRIME) - ids.k",
        "assert ids.a < 2**64"]⟩ = .ok signature ∧
      wrapper.PlaceholderRule signature := by
  have succeeds : (Hint.prepare
      ⟨2, ["ids.r.d0 = ids.p.y.d1 + ids.b.len * ids.b.ptr + pack(ids.q, PRIME) - ids.k",
        "assert ids.a < 2**64"]⟩).isOk = true := by
    decide +kernel
  obtain ⟨wrapper, prepared⟩ := exists_ok_of_isOk succeeds
  obtain ⟨signature, analyzed, rule⟩ := Hint.placeholderRule prepared
  exact ⟨wrapper, signature, prepared, analyzed, rule⟩

end HintFuzz
