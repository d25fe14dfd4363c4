import HintFuzz.Cairo.Shape
import HintFuzz.Proofs.Cairo.Leaves
import HintFuzz.Proofs.Order.Ascending
import Mathlib.Data.List.Basic

/-!
# Shapes of roots

A shape is a felt, a struct of the vocabulary, a struct of the fields of the root or
nothing that has a type (`RootVariable.shape_cases`).  A known type is exact for the root
exactly if the accessed fields are its leaves (`RootVariable.exact_iff`).
-/

namespace HintFuzz

open Cairo

variable {root : RootVariable} {members : List String}

/-! ### Fields -/

/-- The fields at one level of the paths of a root, ascending. -/
def RootVariable.fieldsAt (root : RootVariable) (level : Nat) : List String :=
  ascending (root.paths.filterMap fun path => path[level]?)

/-- The fields at a level are those that some path has there. -/
theorem RootVariable.mem_fieldsAt {level : Nat} {field : String} :
    field ∈ root.fieldsAt level ↔ ∃ path ∈ root.paths, path[level]? = some field := by
  rw [fieldsAt, mem_ascending, List.mem_filterMap]

/-- The fields of a root that is accessed one level down are its paths. -/
theorem RootVariable.mem_fieldsAt_zero {field : String}
    (flat : ∀ path ∈ root.paths, path.length = 1) :
    field ∈ root.fieldsAt 0 ↔ [field] ∈ root.paths := by
  rw [mem_fieldsAt]
  constructor
  · rintro ⟨path, member, found⟩
    obtain ⟨name, rfl⟩ := List.length_eq_one_iff.mp (flat path member)
    cases found
    exact member
  · intro member
    exact ⟨[field], member, rfl⟩

/-- All paths of length 1 have a property if it holds of their fields. -/
theorem RootVariable.forall_paths_iff_of_flat {p : List String → Prop}
    (flat : ∀ path ∈ root.paths, path.length = 1) :
    (∀ path ∈ root.paths, p path) ↔ ∀ field ∈ root.fieldsAt 0, p [field] := by
  constructor
  · intro all field member
    exact all [field] ((mem_fieldsAt_zero flat).mp member)
  · intro all path member
    obtain ⟨field, rfl⟩ := List.length_eq_one_iff.mp (flat path member)
    exact all field ((mem_fieldsAt_zero flat).mpr member)

/-- What holds of both fields of each path holds level by level. -/
theorem RootVariable.forall_paths_iff_of_nested {p q : String → Prop}
    (nested : ∀ path ∈ root.paths, path.length = 2) :
    (∀ path ∈ root.paths, ∃ outer inner, path = [outer, inner] ∧ p outer ∧ q inner) ↔
      (∀ outer ∈ root.fieldsAt 0, p outer) ∧ ∀ inner ∈ root.fieldsAt 1, q inner := by
  constructor
  · intro all
    refine ⟨fun field member => ?_, fun field member => ?_⟩
    · obtain ⟨path, found, first⟩ := mem_fieldsAt.mp member
      obtain ⟨outer, inner, rfl, holds, -⟩ := all path found
      cases first
      exact holds
    · obtain ⟨path, found, second⟩ := mem_fieldsAt.mp member
      obtain ⟨outer, inner, rfl, -, holds⟩ := all path found
      cases second
      exact holds
  · rintro ⟨first, second⟩ path member
    obtain ⟨outer, inner, rfl⟩ := List.length_eq_two.mp (nested path member)
    have outerField : outer ∈ root.fieldsAt 0 := mem_fieldsAt.mpr ⟨_, member, rfl⟩
    have innerField : inner ∈ root.fieldsAt 1 := mem_fieldsAt.mpr ⟨_, member, rfl⟩
    exact ⟨outer, inner, rfl, first outer outerField, second inner innerField⟩

/-- The shape of a root goes by its arity. -/
theorem RootVariable.shape_eq (root : RootVariable) :
    root.shape =
      match root.arity with
      | 0 => .known (if root.packed then .known .bigInt3 else .felt) true
      | 1 => flatShape root.packed (root.fieldsAt 0)
      | 2 => nestedShape (root.fieldsAt 0) (root.fieldsAt 1)
      | depth => .unresolvable s!"field paths of depth {depth} are not supported" :=
  rfl

/-! ### Shapes -/

/-- A root that is accessed one level down is a known struct or a struct of its
own of exactly the accessed fields. -/
theorem Cairo.flatShape_cases (packed : Bool) (fields : List String) :
    (∃ struct exact, flatShape packed fields = .known (.known struct) exact) ∨
      flatShape packed fields = .generated fields := by
  unfold flatShape
  split
  · exact .inl ⟨_, _, rfl⟩
  · split
    · exact .inl ⟨_, _, rfl⟩
    · split
      · exact .inl ⟨_, _, rfl⟩
      · split
        · exact .inl ⟨_, _, rfl⟩
        · exact .inr rfl

/-- A root that is accessed two levels down is a point of big integers or has no
type. -/
theorem Cairo.nestedShape_cases (outer inner : List String) :
    nestedShape outer inner = .known (.known .secpPoint) true ∨
      ∃ detail, nestedShape outer inner = .unresolvable detail := by
  unfold nestedShape
  split
  · exact .inl rfl
  · exact .inr ⟨_, rfl⟩

/-- All that a shape can be: a felt or a struct of the vocabulary, a struct of the
first fields of all paths, or nothing that has a type. -/
theorem RootVariable.shape_cases (root : RootVariable) :
    (∃ exact, root.shape = .known .felt exact) ∨
      (∃ struct exact, root.shape = .known (.known struct) exact) ∨
      root.shape = .generated (root.fieldsAt 0) ∨
      ∃ detail, root.shape = .unresolvable detail := by
  unfold RootVariable.shape
  split
  · split
    · exact .inr (.inl ⟨_, _, rfl⟩)
    · exact .inl ⟨_, rfl⟩
  · rcases flatShape_cases root.packed _ with ⟨struct, exact, known⟩ | generated
    · exact .inr (.inl ⟨struct, exact, known⟩)
    · exact .inr (.inr (.inl generated))
  · rcases nestedShape_cases _ _ with known | ⟨detail, unresolvable⟩
    · exact .inr (.inl ⟨_, _, known⟩)
    · exact .inr (.inr (.inr ⟨detail, unresolvable⟩))
  · exact .inr (.inr (.inr ⟨_, rfl⟩))

/-- The members of a generated struct are the first fields of the paths. -/
theorem RootVariable.eq_fieldsAt_of_shape_generated (shape : root.shape = .generated members) :
    members = root.fieldsAt 0 := by
  rcases root.shape_cases with ⟨_, other⟩ | ⟨_, _, other⟩ | fields | ⟨_, other⟩
  · cases shape.symm.trans other
  · cases shape.symm.trans other
  · exact Shape.generated.inj (shape.symm.trans fields)
  · cases shape.symm.trans other

/-- The members of a generated struct are distinct. -/
theorem RootVariable.nodup_of_shape_generated (shape : root.shape = .generated members) :
    members.Nodup := by
  rw [eq_fieldsAt_of_shape_generated shape]
  exact nodup_ascending _

/-- A known type is not made for one program. -/
theorem RootVariable.not_generated_of_shape_known {type : CairoType} {exact : Bool}
    (shape : root.shape = .known type exact) (name : String) (members : List String) :
    type ≠ .generated name members := by
  rintro rfl
  rcases root.shape_cases with ⟨_, other⟩ | ⟨_, _, other⟩ | other | ⟨_, other⟩
  all_goals cases shape.symm.trans other

/-! ### Exact types -/

/-- A path of fields fits a type: it leads to a felt of it, or is no path at all. -/
def Cairo.CairoType.Fits (type : CairoType) (path : List String) : Prop :=
  path = [] ∨ path ∈ type.leaves

/-- Fields are within a list if each of them is in it. -/
theorem Cairo.within_iff {fields allowed : List String} :
    within fields allowed = true ↔ ∀ field ∈ fields, field ∈ allowed := by
  simp only [within, List.all_eq_true, List.contains_iff_mem]

/-- A struct of felts fits the fields that are its members. -/
theorem Cairo.forall_fits_iff {type : CairoType} {names fields : List String}
    (felts : type.OfFelts names) :
    (∀ field ∈ fields, type.Fits [field]) ↔ within fields names = true := by
  have one (field : String) : type.Fits [field] ↔ field ∈ names := by
    rw [CairoType.Fits, ← leads_iff, felts.leads_one_iff]
    simp
  simp only [one, within_iff]

/-- The only type that does not fit the fields of its root is a big integer for a root that
is packed. -/
theorem Cairo.exact_iff_of_flatShape {packed exact : Bool} {fields : List String}
    {type : CairoType} (shape : flatShape packed fields = .known type exact) :
    exact = true ↔ ∀ field ∈ fields, type.Fits [field] := by
  have bigInt3 := @forall_fits_iff _ _ fields ofFelts_bigInt3
  unfold flatShape at shape
  split at shape
  · next inside =>
      cases shape
      exact iff_of_true rfl (bigInt3.mpr inside)
  · next outside =>
      split at shape
      · cases shape
        exact iff_of_false Bool.false_ne_true fun all => outside (bigInt3.mp all)
      · split at shape
        · next inside =>
            cases shape
            exact iff_of_true rfl ((forall_fits_iff ofFelts_uint256).mpr inside)
        · split at shape
          · next inside =>
              cases shape
              exact iff_of_true rfl ((forall_fits_iff ofFelts_ecPoint).mpr inside)
          · cases shape

/-- A point of big integers fits all fields that lead to one. -/
theorem Cairo.fits_of_nestedShape {exact : Bool} {outer inner : List String} {type : CairoType}
    (shape : nestedShape outer inner = .known type exact) :
    exact = true ∧ ∀ first ∈ outer, ∀ second ∈ inner, type.Fits [first, second] := by
  unfold nestedShape at shape
  split at shape
  · next inside =>
      cases shape
      obtain ⟨outside, within⟩ := Bool.and_eq_true_iff.mp inside
      refine ⟨rfl, fun first firstMember second secondMember => .inr ?_⟩
      have coordinate := within_iff.mp outside first firstMember
      have limb := within_iff.mp within second secondMember
      exact List.mem_flatMap.mpr ⟨first, coordinate, List.mem_map.mpr ⟨second, limb, rfl⟩⟩
  · cases shape

/-- A known type is exact if all accesses of the root fit it, and only then. -/
theorem RootVariable.exact_iff {type : CairoType} {exact : Bool}
    (uniform : ∀ path ∈ root.paths, path.length = root.arity)
    (shape : root.shape = .known type exact) :
    exact = true ↔ ∀ path ∈ root.paths, type.Fits path := by
  rw [shape_eq] at shape
  split at shape
  · next arity =>
      cases shape
      refine iff_of_true rfl fun path member => .inl ?_
      exact List.length_eq_zero_iff.mp ((uniform path member).trans arity)
  · next arity =>
      rw [Cairo.exact_iff_of_flatShape shape, forall_paths_iff_of_flat (arity ▸ uniform)]
  · next arity =>
      obtain ⟨rfl, fits⟩ := Cairo.fits_of_nestedShape shape
      refine iff_of_true rfl fun path member => ?_
      obtain ⟨first, second, rfl⟩ := List.length_eq_two.mp ((uniform path member).trans arity)
      exact fits first (mem_fieldsAt.mpr ⟨_, member, rfl⟩) second (mem_fieldsAt.mpr ⟨_, member, rfl⟩)
  · cases shape

end HintFuzz
