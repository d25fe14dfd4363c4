import HintFuzz.Proofs.Cairo.Shape

/-!
# Shapes and the vocabulary

A type honours a root if each path of the root leads to a felt of it.  Shapes are right about this
in both directions (`RootVariable.shapeRule`): an exact type and a generated one honour their root,
and a root is given up, or gets a struct of its own, only where no struct of the vocabulary
honours it.

Fields are looked at level by level.  That loses nothing: which inner fields a struct of the
vocabulary has does not depend on the outer one (`RootVariable.honours_secpPoint_iff`).
-/

namespace HintFuzz.Cairo

/-- Each path of a root leads to a felt of the type. -/
def CairoType.Honours (type : CairoType) (root : RootVariable) : Prop :=
  ∀ path ∈ root.paths, type.Leads path

/-! ### Shapes of fields -/

section Fields

variable {packed : Bool} {fields members : List String} {type : CairoType}

private theorem flatShape_eq_generated_iff : flatShape packed fields = .generated members ↔
    (within fields limbs = false ∧ packed = false ∧ within fields halves = false ∧
      within fields coordinates = false) ∧ fields = members := by
  unfold flatShape
  cases within fields limbs
  · cases packed
    · cases within fields halves
      · cases within fields coordinates <;> simp
      · simp
    · simp
  · simp

/-- A type that is not exact is that of a packed root with another field than limbs. -/
theorem flatShape_eq_inexact_iff : flatShape packed fields = .known type false ↔
    type = .known .bigInt3 ∧ packed = true ∧ within fields limbs = false := by
  unfold flatShape
  cases within fields limbs
  · cases packed
    · cases within fields halves
      · cases within fields coordinates <;> simp
      · simp
    · simp [eq_comm]
  · simp

/-- Fields that are not packed have an exact type if they are members of a struct of felts. -/
theorem exists_flatShape_eq_exact_iff :
    (∃ struct, flatShape false fields = .known (.known struct) true) ↔
      within fields limbs = true ∨ within fields halves = true ∨
        within fields coordinates = true := by
  unfold flatShape
  cases within fields limbs
  · cases within fields halves
    · cases within fields coordinates <;> simp
    · simp
  · simp

/-- Fields of both levels have one if they are those of a point of big integers. -/
theorem exists_nestedShape_eq_exact_iff {inner : List String} :
    (∃ struct, nestedShape fields inner = .known (.known struct) true) ↔
      (within fields coordinates && within inner limbs) = true := by
  unfold nestedShape
  split
  · next inside => exact iff_of_true ⟨_, rfl⟩ inside
  · next outside => exact iff_of_false (fun ⟨_, same⟩ => nomatch same) outside

/-- Some field is not among others if not all of them are. -/
theorem within_eq_false_iff {allowed : List String} :
    within fields allowed = false ↔ ∃ field ∈ fields, field ∉ allowed := by
  rw [Bool.eq_false_iff, ne_eq, within_iff]
  push Not
  rfl

private theorem nestedShape_eq_unresolvable_iff {inner : List String} :
    (∃ detail, nestedShape fields inner = .unresolvable detail) ↔
      ¬(within fields coordinates && within inner limbs) = true := by
  unfold nestedShape
  split
  · next inside => exact iff_of_false (fun ⟨_, same⟩ => nomatch same) (not_not_intro inside)
  · next outside => exact iff_of_true ⟨_, rfl⟩ outside

end Fields

end HintFuzz.Cairo

namespace HintFuzz

open Cairo

variable {root : RootVariable} {depth : Nat}

/-! ### Structs that honour a root -/

private theorem Cairo.CairoType.OfFelts.honours_iff {type : CairoType} {names : List String}
    (felts : type.OfFelts names) (flat : ∀ path ∈ root.paths, path.length = 1) :
    type.Honours root ↔ within (root.fieldsAt 0) names = true := by
  rw [CairoType.Honours, RootVariable.forall_paths_iff_of_flat flat, within_iff]
  simp only [felts.leads_one_iff]

/-- Paths of length 2 lead to felts of a `SecpPoint` if they name coordinates and limbs. -/
theorem RootVariable.honours_secpPoint_iff (nested : ∀ path ∈ root.paths, path.length = 2) :
    (CairoType.known .secpPoint).Honours root ↔
      (within (root.fieldsAt 0) coordinates && within (root.fieldsAt 1) limbs) = true := by
  rw [Bool.and_eq_true, within_iff, within_iff, ← forall_paths_iff_of_nested nested]
  exact forall₂_congr fun path _ => leads_secpPoint_iff

/-- A struct honours a root only if its felts are as deep as the paths go. -/
theorem RootVariable.depth_eq_of_honours {struct : Known} (some : root.paths ≠ [])
    (uniform : ∀ path ∈ root.paths, path.length = depth)
    (honours : (CairoType.known struct).Honours root) : struct.depth = depth := by
  obtain ⟨path, member⟩ := List.exists_mem_of_ne_nil _ some
  rw [← length_of_leads (honours path member), uniform path member]

private theorem RootVariable.exists_honours_iff_of_flat (some : root.paths ≠ [])
    (flat : ∀ path ∈ root.paths, path.length = 1) :
    (∃ struct : Known, (CairoType.known struct).Honours root) ↔
      within (root.fieldsAt 0) limbs = true ∨ within (root.fieldsAt 0) halves = true ∨
        within (root.fieldsAt 0) coordinates = true := by
  have bigInt3 := ofFelts_bigInt3.honours_iff flat
  have uint256 := ofFelts_uint256.honours_iff flat
  have ecPoint := ofFelts_ecPoint.honours_iff flat
  constructor
  · rintro ⟨struct, honours⟩
    cases struct with
    | bigInt3 => exact .inl (bigInt3.mp honours)
    | uint256 => exact .inr (.inl (uint256.mp honours))
    | ecPoint => exact .inr (.inr (ecPoint.mp honours))
    | secpPoint => cases depth_eq_of_honours some flat honours
  · rintro (inside | inside | inside)
    · exact ⟨_, bigInt3.mpr inside⟩
    · exact ⟨_, uint256.mpr inside⟩
    · exact ⟨_, ecPoint.mpr inside⟩

private theorem RootVariable.exists_honours_iff_of_nested (some : root.paths ≠ [])
    (nested : ∀ path ∈ root.paths, path.length = 2) :
    (∃ struct : Known, (CairoType.known struct).Honours root) ↔
      (within (root.fieldsAt 0) coordinates && within (root.fieldsAt 1) limbs) = true := by
  rw [← honours_secpPoint_iff nested]
  constructor
  · rintro ⟨struct, honours⟩
    cases struct with
    | secpPoint => exact honours
    | bigInt3 | uint256 | ecPoint => cases depth_eq_of_honours some nested honours
  · exact fun honours => ⟨_, honours⟩

/-! ### The rule -/

/-- What the shape of a root says of it, where each of its paths has `depth` fields. -/
structure RootVariable.ShapeRule (root : RootVariable) (depth : Nat) : Prop where
  /-- A root without fields is a felt unless it is packed. -/
  bare : depth = 0 → root.shape = .known (if root.packed then .known .bigInt3 else .felt) true
  honoured : ∀ type, 0 < depth → root.shape = .known type true → type.Honours root
  /-- A type is not honoured where other fields than limbs are packed, and nowhere else. -/
  coerced_iff : ∀ type, root.shape = .known type false ↔ type = .known .bigInt3 ∧
    root.packed = true ∧ depth = 1 ∧ ∃ field, [field] ∈ root.paths ∧ field ∉ limbs
  generated : ∀ members, root.shape = .generated members → members.Pairwise (· < ·) ∧
    (∀ field, field ∈ members ↔ [field] ∈ root.paths) ∧
      ∀ name, (CairoType.generated name members).Honours root
  generated_iff : depth = 1 → root.packed = false →
    ((∃ members, root.shape = .generated members) ↔
      ∀ struct : Known, ¬(CairoType.known struct).Honours root)
  unresolvable_iff : 2 ≤ depth →
    ((∃ detail, root.shape = .unresolvable detail) ↔
      ∀ struct : Known, ¬(CairoType.known struct).Honours root)
  /-- A struct that honours a root makes its type exact, unless the root is packed one level
  down. -/
  exact_iff : 0 < depth → (depth = 1 → root.packed = false) →
    ((∃ struct, root.shape = .known (.known struct) true) ↔
      ∃ struct : Known, (CairoType.known struct).Honours root)
  /-- No root that is accessed one level down or not at all is given up. -/
  resolved : depth ≤ 1 → ∀ detail, root.shape ≠ .unresolvable detail

section Rule

private theorem RootVariable.arity_eq (some : root.paths ≠ [])
    (uniform : ∀ path ∈ root.paths, path.length = depth) : root.arity = depth := by
  obtain ⟨path, rest, paths⟩ := List.exists_cons_of_ne_nil some
  have first := uniform path (paths ▸ List.mem_cons_self)
  rw [arity, paths, ← first]
  rfl

private theorem RootVariable.honours_of_exact {type : CairoType} (fielded : 0 < depth)
    (some : root.paths ≠ []) (uniform : ∀ path ∈ root.paths, path.length = depth)
    (shape : root.shape = .known type true) : type.Honours root := by
  intro path member
  have fits := (root.exact_iff (arity_eq some uniform ▸ uniform) shape).mp rfl path member
  rcases fits with rfl | leaf
  · exact absurd (uniform [] member) (Nat.ne_of_lt fielded)
  · exact leads_iff.mpr leaf

private theorem RootVariable.shape_of_bare (some : root.paths ≠ [])
    (bare : ∀ path ∈ root.paths, path.length = 0) :
    root.shape = .known (if root.packed then .known .bigInt3 else .felt) true := by
  rw [shape_eq, arity_eq some bare]
  rfl

private theorem RootVariable.shape_of_flat (some : root.paths ≠ [])
    (flat : ∀ path ∈ root.paths, path.length = 1) :
    root.shape = flatShape root.packed (root.fieldsAt 0) := by
  rw [shape_eq, arity_eq some flat]
  rfl

private theorem RootVariable.shape_of_nested (some : root.paths ≠ [])
    (nested : ∀ path ∈ root.paths, path.length = 2) :
    root.shape = nestedShape (root.fieldsAt 0) (root.fieldsAt 1) := by
  rw [shape_eq, arity_eq some nested]
  rfl

private theorem RootVariable.shape_of_deep (some : root.paths ≠ [])
    (deep : ∀ path ∈ root.paths, path.length = depth + 3) :
    ∃ detail, root.shape = .unresolvable detail := by
  rw [shape_eq, arity_eq some deep]
  exact ⟨_, rfl⟩

private theorem RootVariable.shapeRule_bare (some : root.paths ≠ [])
    (bare : ∀ path ∈ root.paths, path.length = 0) : root.ShapeRule 0 where
  bare _ := shape_of_bare some bare
  honoured _ := nofun
  coerced_iff type := by
    rw [shape_of_bare some bare]
    exact iff_of_false nofun nofun
  generated members made := by
    cases (shape_of_bare some bare).symm.trans made
  generated_iff := nofun
  unresolvable_iff := nofun
  exact_iff := nofun
  resolved _ detail given := by
    cases (shape_of_bare some bare).symm.trans given

private theorem RootVariable.shapeRule_flat (some : root.paths ≠ [])
    (flat : ∀ path ∈ root.paths, path.length = 1) : root.ShapeRule 1 where
  bare := nofun
  honoured _ fielded := honours_of_exact fielded some flat
  coerced_iff type := by
    rw [shape_of_flat some flat, flatShape_eq_inexact_iff, within_eq_false_iff]
    simp only [mem_fieldsAt_zero flat, true_and]
  generated members made := by
    obtain rfl := eq_fieldsAt_of_shape_generated made
    refine ⟨pairwise_ascending _, fun field => mem_fieldsAt_zero flat, fun name => ?_⟩
    rw [(ofFelts_generated name _).honours_iff flat]
    exact within_iff.mpr fun field member => member
  generated_iff _ unpacked := by
    rw [shape_of_flat some flat, ← not_exists, exists_honours_iff_of_flat some flat]
    simp [flatShape_eq_generated_iff, unpacked]
  unresolvable_iff deep := absurd deep (by decide)
  exact_iff _ unpacked := by
    rw [shape_of_flat some flat, unpacked rfl, exists_flatShape_eq_exact_iff,
      exists_honours_iff_of_flat some flat]
  resolved _ detail given := by
    rw [shape_of_flat some flat] at given
    rcases flatShape_cases root.packed (root.fieldsAt 0) with ⟨_, _, known⟩ | generated
    · cases known.symm.trans given
    · cases generated.symm.trans given

private theorem RootVariable.shapeRule_nested (some : root.paths ≠ [])
    (nested : ∀ path ∈ root.paths, path.length = 2) : root.ShapeRule 2 where
  bare := nofun
  honoured _ fielded := honours_of_exact fielded some nested
  coerced_iff type := by
    refine iff_of_false (fun inexact => ?_) fun coerced => nomatch coerced.2.2.1
    rw [shape_of_nested some nested] at inexact
    cases (fits_of_nestedShape inexact).1
  generated members made := by
    rw [shape_of_nested some nested] at made
    rcases nestedShape_cases (root.fieldsAt 0) (root.fieldsAt 1) with known | ⟨detail, given⟩
    · cases known.symm.trans made
    · cases given.symm.trans made
  generated_iff := nofun
  unresolvable_iff _ := by
    rw [shape_of_nested some nested, ← not_exists, exists_honours_iff_of_nested some nested]
    exact nestedShape_eq_unresolvable_iff
  exact_iff _ _ := by
    rw [shape_of_nested some nested, exists_nestedShape_eq_exact_iff,
      exists_honours_iff_of_nested some nested]
  resolved shallow := absurd shallow (by decide)

/-- No struct of the vocabulary is as deep. -/
theorem RootVariable.shapeRule_deep (some : root.paths ≠ [])
    (deep : ∀ path ∈ root.paths, path.length = depth + 3) : root.ShapeRule (depth + 3) := by
  obtain ⟨detail, shape⟩ := shape_of_deep some deep
  have unhonoured (struct : Known) : ¬(CairoType.known struct).Honours root := by
    intro honours
    have reached := depth_eq_of_honours some deep honours
    have shallow := struct.depth_le
    omega
  exact
    { bare := nofun
      honoured := fun _ fielded => honours_of_exact fielded some deep
      coerced_iff := fun type => by
        rw [shape]
        exact iff_of_false nofun fun coerced => nomatch coerced.2.2.1
      generated := fun _ made => nomatch shape.symm.trans made
      generated_iff := nofun
      unresolvable_iff := fun _ => iff_of_true ⟨detail, shape⟩ unhonoured
      exact_iff := fun _ _ =>
        iff_of_false (fun ⟨_, known⟩ => nomatch shape.symm.trans known) fun ⟨struct, honours⟩ =>
          unhonoured struct honours
      resolved := fun shallow => absurd shallow (by omega) }

/-- **Shapes are right about the vocabulary**: what they promise holds of all paths of a root,
and they give up only where no struct does. -/
theorem RootVariable.shapeRule (some : root.paths ≠ [])
    (uniform : ∀ path ∈ root.paths, path.length = depth) : root.ShapeRule depth :=
  match depth with
  | 0 => shapeRule_bare some uniform
  | 1 => shapeRule_flat some uniform
  | 2 => shapeRule_nested some uniform
  | _ + 3 => shapeRule_deep some uniform

/-- A packed root with a limb and another field. -/
theorem RootVariable.shapeRule_coerced :
    [["d0"], ["low"]] ≠ [] ∧ (∀ path ∈ [["d0"], ["low"]], path.length = 1) ∧
      RootVariable.ShapeRule ⟨"value", .input, [["d0"], ["low"]], true⟩ 1 := by
  have some : [["d0"], ["low"]] ≠ [] := List.cons_ne_nil _ _
  have flat : ∀ path ∈ [["d0"], ["low"]], path.length = 1 := by decide
  exact ⟨some, flat, shapeRule some flat⟩

end Rule

end HintFuzz
