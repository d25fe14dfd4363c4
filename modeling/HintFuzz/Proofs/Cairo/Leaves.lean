import HintFuzz.Cairo.Types

/-!
# The felts of a type

Fields lead from a value to its felts, from member to member (`Cairo.CairoType.Leads`).  The
leaves of a type are the paths of fields that do (`Cairo.leads_iff`), those of one member after
those of the other (`Cairo.CairoType.leafRule`).
-/

namespace HintFuzz.Cairo

/-- Fields lead from a value of a type to a felt, from member to member. -/
inductive CairoType.Leads : CairoType → List String → Prop
  | felt : Leads .felt []
  | member {type inner : CairoType} {name : String} {path : List String}
      (member : (name, inner) ∈ type.members) (leads : Leads inner path) :
      Leads type (name :: path)

/-- How many fields lead from a struct to its felts. -/
def Known.depth : Known → Nat
  | .bigInt3 | .uint256 | .ecPoint => 1
  | .secpPoint => 2

/-- A struct whose members are felts. -/
structure CairoType.OfFelts (type : CairoType) (names : List String) : Prop where
  struct : type ≠ .felt
  members : type.members = names.map (·, .felt)

/-- The members of `BigInt3` are felts, named like limbs. -/
theorem ofFelts_bigInt3 : (CairoType.known .bigInt3).OfFelts limbs :=
  ⟨nofun, rfl⟩

/-- The members of `Uint256` are felts, named like halves. -/
theorem ofFelts_uint256 : (CairoType.known .uint256).OfFelts halves :=
  ⟨nofun, rfl⟩

/-- The members of `EcPoint` are felts, named like coordinates. -/
theorem ofFelts_ecPoint : (CairoType.known .ecPoint).OfFelts coordinates :=
  ⟨nofun, rfl⟩

/-- The members of a generated struct are felts. -/
theorem ofFelts_generated (name : String) (members : List String) :
    (CairoType.generated name members).OfFelts members :=
  ⟨nofun, rfl⟩

/-- No struct of the vocabulary is deeper than 2. -/
theorem Known.depth_le (struct : Known) : struct.depth ≤ 2 := by
  cases struct <;> decide

section Leads

variable {type : CairoType} {names path : List String}

/-- A path leads into a member and goes on from there. -/
theorem leads_cons_iff {name : String} :
    type.Leads (name :: path) ↔ ∃ inner, (name, inner) ∈ type.members ∧ inner.Leads path := by
  constructor
  · intro leads
    cases leads with
    | member member leads => exact ⟨_, member, leads⟩
  · rintro ⟨inner, member, leads⟩
    exact .member member leads

/-- No path leads into a felt. -/
theorem leads_felt_iff : CairoType.felt.Leads path ↔ path = [] := by
  constructor
  · intro leads
    cases leads with
    | felt => rfl
    | member member => cases member
  · rintro rfl
    exact .felt

/-- One field leads from a struct of felts to each of them. -/
theorem CairoType.OfFelts.leads_iff (felts : type.OfFelts names) :
    type.Leads path ↔ ∃ name ∈ names, path = [name] := by
  cases path with
  | nil =>
      refine iff_of_false (fun leads => ?_) fun ⟨_, _, same⟩ => nomatch same
      cases leads
      exact felts.struct rfl
  | cons name rest =>
      rw [leads_cons_iff, felts.members]
      constructor
      · rintro ⟨inner, member, leads⟩
        obtain ⟨_, listed, same⟩ := List.mem_map.mp member
        cases same
        rw [leads_felt_iff.mp leads]
        exact ⟨name, listed, rfl⟩
      · rintro ⟨_, listed, same⟩
        cases same
        exact ⟨.felt, List.mem_map_of_mem listed, .felt⟩

/-- One field leads to a felt of a struct of felts exactly if it names a member. -/
theorem CairoType.OfFelts.leads_one_iff {name : String} (felts : type.OfFelts names) :
    type.Leads [name] ↔ name ∈ names := by
  simp [felts.leads_iff]

/-- A path through a `SecpPoint` names a coordinate and a limb. -/
theorem leads_secpPoint_iff : (CairoType.known .secpPoint).Leads path ↔
    ∃ outer inner, path = [outer, inner] ∧ outer ∈ coordinates ∧ inner ∈ limbs := by
  cases path with
  | nil => exact iff_of_false nofun fun ⟨_, _, same, _⟩ => nomatch same
  | cons outer rest =>
      rw [leads_cons_iff]
      constructor
      · rintro ⟨type, member, leads⟩
        obtain ⟨_, listed, same⟩ := List.mem_map.mp member
        cases same
        obtain ⟨inner, limb, rfl⟩ := ofFelts_bigInt3.leads_iff.mp leads
        exact ⟨outer, inner, rfl, listed, limb⟩
      · rintro ⟨_, inner, same, listed, limb⟩
        cases same
        exact ⟨_, List.mem_map_of_mem listed, ofFelts_bigInt3.leads_iff.mpr ⟨inner, limb, rfl⟩⟩

/-- The leaves of a type are the paths that lead to its felts. -/
theorem leads_iff : type.Leads path ↔ path ∈ type.leaves := by
  have leaf {names : List String} : (∃ name ∈ names, path = [name]) ↔
      path ∈ (names.map (·, CairoType.felt)).map fun member => [member.1] := by
    simp only [List.map_map, List.mem_map, Function.comp_apply, @eq_comm _ path]
  cases type with
  | felt => exact leads_felt_iff.trans List.mem_singleton.symm
  | generated name members => exact (ofFelts_generated name members).leads_iff.trans leaf
  | known struct =>
      cases struct with
      | bigInt3 => exact ofFelts_bigInt3.leads_iff.trans leaf
      | uint256 => exact ofFelts_uint256.leads_iff.trans leaf
      | ecPoint => exact ofFelts_ecPoint.leads_iff.trans leaf
      | secpPoint =>
          rw [leads_secpPoint_iff, CairoType.leaves, List.mem_flatMap]
          simp only [List.mem_map]
          constructor
          · rintro ⟨outer, inner, rfl, coordinate, limb⟩
            exact ⟨outer, coordinate, inner, limb, rfl⟩
          · rintro ⟨outer, coordinate, inner, limb, rfl⟩
            exact ⟨outer, inner, rfl, coordinate, limb⟩

/-- All paths through a struct of the vocabulary are as long as it is deep. -/
theorem length_of_leads {struct : Known} (leads : (CairoType.known struct).Leads path) :
    path.length = struct.depth := by
  have one {names : List String} (felts : (CairoType.known struct).OfFelts names) :
      path.length = 1 := by
    obtain ⟨_, -, rfl⟩ := felts.leads_iff.mp leads
    rfl
  cases struct with
  | bigInt3 => exact one ofFelts_bigInt3
  | uint256 => exact one ofFelts_uint256
  | ecPoint => exact one ofFelts_ecPoint
  | secpPoint =>
      obtain ⟨_, _, rfl, -⟩ := leads_secpPoint_iff.mp leads
      rfl

end Leads

/-! ### Members -/

/-- Types are made of the types of their members, and of felts in the end. -/
theorem CairoType.induction {motive : CairoType → Prop} (felt : motive .felt)
    (struct : ∀ type, type ≠ .felt → (∀ member ∈ type.members, motive member.2) → motive type)
    (type : CairoType) : motive type := by
  have ofFelts {type : CairoType} {names : List String} (felts : type.OfFelts names) :
      motive type := by
    refine struct type felts.struct fun member listed => ?_
    rw [felts.members] at listed
    obtain ⟨name, -, rfl⟩ := List.mem_map.mp listed
    exact felt
  cases type with
  | felt => exact felt
  | generated name members => exact ofFelts (ofFelts_generated name members)
  | known known =>
      cases known with
      | bigInt3 => exact ofFelts ofFelts_bigInt3
      | uint256 => exact ofFelts ofFelts_uint256
      | ecPoint => exact ofFelts ofFelts_ecPoint
      | secpPoint =>
          refine struct _ nofun fun member listed => ?_
          obtain ⟨name, -, rfl⟩ := List.mem_map.mp listed
          exact ofFelts ofFelts_bigInt3

/-- How the leaves of a type follow from those of its members. -/
structure CairoType.LeafRule (type : CairoType) : Prop where
  felt : type = .felt → type.leaves = [[]] ∧ type.leafCount = 1
  struct : type ≠ .felt →
    type.leaves = type.members.flatMap (fun member => member.2.leaves.map (member.1 :: ·)) ∧
      type.leafCount = (type.members.map fun member => member.2.leafCount).foldr (· + ·) 0

/-- The leaves of a struct are those of its members, in the order of these. -/
theorem CairoType.leaves_of_ne_felt {type : CairoType} (struct : type ≠ .felt) :
    type.leaves = type.members.flatMap fun member => member.2.leaves.map (member.1 :: ·) := by
  have flat (names : List String) :
      (names.map (·, CairoType.felt)).map (fun member => [member.1]) =
        (names.map (·, CairoType.felt)).flatMap fun member =>
          member.2.leaves.map (member.1 :: ·) := by
    rw [List.map_map, List.flatMap_map, List.map_eq_flatMap]
    rfl
  match type with
  | .felt => exact absurd rfl struct
  | .known .bigInt3 => exact flat limbs
  | .known .uint256 => exact flat halves
  | .known .ecPoint => exact flat coordinates
  | .known .secpPoint => rfl
  | .generated _ members => exact flat members

/-- **The leaves of a type are the paths that lead to a felt of it.** -/
theorem CairoType.leafRule (type : CairoType) : type.LeafRule where
  felt := by
    rintro rfl
    exact ⟨rfl, rfl⟩
  struct struct := by
    refine ⟨leaves_of_ne_felt struct, ?_⟩
    rw [leafCount, leaves_of_ne_felt struct, List.length_flatMap, List.sum_eq_foldr]
    simp only [List.length_map]
    rfl

end HintFuzz.Cairo
