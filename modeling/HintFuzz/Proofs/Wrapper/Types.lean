import HintFuzz.Proofs.Cairo.DeclarationOrder
import HintFuzz.Proofs.Cairo.Shape
import HintFuzz.Proofs.Cairo.Typing
import HintFuzz.Proofs.Decimal.Digits
import HintFuzz.Wrapper.Synthesis
import Mathlib.Data.List.Nodup

/-!
# Declared structs

The names of generated structs are numbered, so types with the same name are the
same (`Listed.eq_of_name_eq`), and the ascending list of all structs that a
program needs declares every struct after those that it is made of
(`structsCheck_structTypes`).
-/

namespace HintFuzz.Wrapper

open Cairo

/-! ### Names of types -/

/-- Different numbers give different names. -/
theorem generatedName_injective {left right : Nat}
    (same : generatedName left = generatedName right) : left = right := by
  have lists := congrArg String.toList same
  rw [generatedName, generatedName, String.toList_append, String.toList_append] at lists
  exact decimal_injective (String.toList_injective (List.append_cancel_left lists))

/-- No struct of the vocabulary and no felt has the name of a generated struct. -/
theorem generatedName_ne (index : Nat) (struct : Known) :
    generatedName index ≠ struct.name ∧ generatedName index ≠ CairoType.felt.name := by
  have first (name : String) (other : name.toList.head? ≠ some 'F') : generatedName index ≠ name := by
    intro same
    rw [← same, generatedName, String.toList_append] at other
    exact other rfl
  constructor
  · apply first
    cases struct <;> decide
  · apply first
    decide

/-- A type that is no generated struct, or one of a list of member lists, with
the name that its place in the list gives. -/
def Listed (generated : List (List String)) : CairoType → Prop
  | .generated name members =>
    members ∈ generated ∧ name = generatedName (generated.idxOf members)
  | _ => True

variable {generated : List (List String)} {roots : List RootVariable} {root : RootVariable}

/-- Listed types are told apart by their names. -/
theorem Listed.eq_of_name_eq {left right : CairoType} (leftListed : Listed generated left)
    (rightListed : Listed generated right) (same : left.name = right.name) : left = right := by
  cases left with
  | felt =>
      cases right with
      | felt => rfl
      | known struct => cases struct <;> exact absurd same (by decide)
      | generated name members =>
          obtain ⟨_, rfl⟩ := rightListed
          exact absurd same.symm (generatedName_ne _ .bigInt3).2
  | known struct =>
      cases right with
      | felt => cases struct <;> exact absurd same (by decide)
      | known struct' =>
          cases struct <;> cases struct' <;> first | rfl | exact absurd same (by decide)
      | generated name members =>
          obtain ⟨_, rfl⟩ := rightListed
          exact absurd same.symm (generatedName_ne _ struct).1
  | generated name members =>
      obtain ⟨member, rfl⟩ := leftListed
      cases right with
      | felt => exact absurd same (generatedName_ne _ .bigInt3).2
      | known struct => exact absurd same (generatedName_ne _ struct).1
      | generated name' members' =>
          obtain ⟨member', rfl⟩ := rightListed
          have sameMembers : members = members' :=
            (List.idxOf_inj member).mp (generatedName_injective same)
          rw [sameMembers]

/-- The member lists of generated structs are those that roots ask for. -/
theorem mem_generatedMembers {members : List String} :
    members ∈ generatedMembers roots ↔ ∃ root ∈ roots, root.shape = .generated members := by
  unfold generatedMembers
  rw [List.mem_eraseDups, List.mem_filterMap]
  constructor
  · rintro ⟨root, member, found⟩
    refine ⟨root, member, ?_⟩
    split at found
    · next shape => exact shape.trans (congrArg Shape.generated (Option.some.inj found))
    · cases found
  · rintro ⟨root, member, shape⟩
    exact ⟨root, member, by rw [shape]⟩

/-- The type of a root is listed among the generated structs of all roots. -/
theorem listed_typeOf (member : root ∈ roots) :
    Listed (generatedMembers roots) (typeOf (generatedMembers roots) root) := by
  unfold typeOf
  rcases root.shape_cases with ⟨_, shape⟩ | ⟨_, _, shape⟩ | shape | ⟨_, shape⟩
  · rw [shape]
    trivial
  · rw [shape]
    trivial
  · have asked := mem_generatedMembers.mpr ⟨root, member, shape⟩
    rw [shape]
    exact ⟨asked, rfl⟩
  · rw [shape]
    trivial

/-! ### Declarations -/

variable {types : List CairoType} {type : CairoType}

/-- A program declares the structs among its types, and big integers for its
points of big integers. -/
theorem mem_structTypes :
    type ∈ structTypes types ↔
      type ∈ types ∧ type ≠ .felt ∨ type = .known .bigInt3 ∧ .known .secpPoint ∈ types := by
  simp only [structTypes, mem_ascending]
  split
  · next found =>
      have point : CairoType.known .secpPoint ∈ types :=
        (List.mem_filter.mp (List.contains_iff_mem.mp found)).1
      simp only [List.mem_cons, List.mem_filter, decide_eq_true_eq, ne_eq, point, and_true]
      exact or_comm
  · next missing =>
      have noPoint : CairoType.known .secpPoint ∉ types := fun point =>
        missing (List.contains_iff_mem.mpr (List.mem_filter.mpr ⟨point, by decide⟩))
      simp only [List.mem_filter, decide_eq_true_eq, ne_eq, noPoint, and_false, or_false]

/-- What is declared is listed if all types are. -/
theorem listed_of_mem_structTypes (listed : ∀ type ∈ types, Listed generated type)
    (member : type ∈ structTypes types) : Listed generated type := by
  rcases mem_structTypes.mp member with ⟨used, _⟩ | ⟨rfl, _⟩
  · exact listed type used
  · trivial

/-- The types of the members of a struct are felts, except in a point of big
integers. -/
theorem member_type_cases {member : String × CairoType} (found : member ∈ type.members) :
    member.2 = .felt ∨ type = .known .secpPoint ∧ member.2 = .known .bigInt3 := by
  have felts {names : List String} (found : member ∈ names.map (·, CairoType.felt)) :
      member.2 = .felt := by
    obtain ⟨name, _, rfl⟩ := List.mem_map.mp found
    rfl
  match type with
  | .felt => cases found
  | .known .bigInt3 | .known .uint256 | .known .ecPoint => exact .inl (felts found)
  | .known .secpPoint =>
      obtain ⟨name, _, rfl⟩ := List.mem_map.mp found
      exact .inr ⟨rfl, rfl⟩
  | .generated _ _ => exact .inl (felts found)

/-- Where a point of big integers is declared, big integers are. -/
theorem bigInt3_mem_structTypes (point : CairoType.known .secpPoint ∈ structTypes types) :
    CairoType.known .bigInt3 ∈ structTypes types := by
  rcases mem_structTypes.mp point with ⟨used, -⟩ | ⟨other, -⟩
  · exact mem_structTypes.mpr (.inr ⟨rfl, used⟩)
  · cases other

/-- The members of a listed type have different names. -/
theorem members_nodup (nodup : ∀ members ∈ generated, members.Nodup)
    (listed : Listed generated type) : (type.members.map Prod.fst).Nodup := by
  match type with
  | .felt => exact .nil
  | .known struct => cases struct <;> decide
  | .generated name members =>
      have names : (CairoType.generated name members).members.map Prod.fst = members := by
        rw [CairoType.members, List.map_map]
        exact List.map_id' _
      rw [names]
      exact nodup members listed.1

/-- The structs that a program needs can be declared in their order. -/
theorem structsCheck_structTypes (nodup : ∀ members ∈ generated, members.Nodup)
    (listed : ∀ type ∈ types, Listed generated type) :
    StructsCheck ((structTypes types).map structDef) where
  names_distinct := by
    have sorted : (structTypes types).Nodup := nodup_ascending _
    rw [List.map_map]
    refine List.Nodup.map_on ?_ sorted
    intro left leftMember right rightMember same
    exact (listed_of_mem_structTypes listed leftMember).eq_of_name_eq
      (listed_of_mem_structTypes listed rightMember) same
  members_distinct := by
    intro struct declared
    obtain ⟨type, member, rfl⟩ := List.mem_map.mp declared
    rw [structDef, List.map_map]
    exact members_nodup nodup (listed_of_mem_structTypes listed member)
  members_declared := by
    intro earlier struct later split member found
    obtain ⟨before, rest, types_eq, rfl, restEq⟩ := List.map_eq_append_iff.mp split
    obtain ⟨type, after, rfl, rfl, -⟩ := List.map_eq_cons_iff.mp restEq
    obtain ⟨typed, typedFound, rfl⟩ := List.mem_map.mp found
    rcases member_type_cases typedFound with felt | ⟨rfl, bigInt⟩
    · exact .inl (congrArg CairoType.name felt)
    · -- The list is ascending, so big integers cannot stand after points of them.
      have point : CairoType.known .secpPoint ∈ structTypes types := by
        rw [types_eq]
        exact List.mem_append_right _ List.mem_cons_self
      have declared : CairoType.known .bigInt3 ∈ before ++ .known .secpPoint :: after := by
        rw [← types_eq]
        exact bigInt3_mem_structTypes point
      have sorted : (before ++ CairoType.known .secpPoint :: after).Pairwise (· < ·) := by
        rw [← types_eq]
        exact pairwise_ascending _
      rcases List.mem_append.mp declared with early | late
      · refine .inr (List.mem_map.mpr ⟨structDef (.known .bigInt3), ?_, ?_⟩)
        · exact List.mem_map_of_mem early
        · exact (congrArg CairoType.name bigInt).symm
      · rcases List.mem_cons.mp late with same | afterwards
        · cases same
        · have order := (List.pairwise_cons.mp (List.pairwise_append.mp sorted).2.1).1 _ afterwards
          exact absurd (CairoType.rank_le_of_lt order) (by decide)

end HintFuzz.Wrapper
