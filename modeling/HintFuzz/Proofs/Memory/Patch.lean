import HintFuzz.Proofs.Memory.Cells

/-!
# Differences as patches

The differences of two snapshots are all that is needed to turn one into the other.  A patch gives
every address that it lists the value on its right side and leaves the other addresses alone
(`Snapshot.get?_patch_of_mem`, `Snapshot.get?_patch_of_notMem`), so that the left snapshot patched
with the differences is the right one, in whatever order they are applied
(`Snapshot.patchRule`).
-/

namespace HintFuzz

open Memory

variable {snapshot left right : Snapshot} {address : Address} {change : Difference}
  {changes : List Difference}

/-- Walking two lists the other way round exchanges the sides of what is found. -/
theorem Memory.differences_swap (left right : List Cell) :
    differences right left = (differences left right).map Difference.swap := by
  fun_induction differences left right with
  | case1 right =>
      rw [List.map_map]
      cases right with
      | nil =>
          rw [differences]
          rfl
      | cons r right =>
          rw [differences]
          · rfl
          · exact List.cons_ne_nil r right
  | case2 left nonempty =>
      rw [differences, List.map_map]
      rfl
  | case3 l left r right before ih =>
      rw [differences, if_neg (UInt64.lt_asymm before), if_pos before, List.map_cons, ih]
      rfl
  | case4 l left r right notBefore after ih =>
      rw [differences, if_pos after, List.map_cons, ih]
      rfl
  | case5 l left r right notBefore notAfter same ih =>
      rw [differences, if_neg notAfter, if_neg notBefore, if_pos same.symm, ih]
  | case6 l left r right notBefore notAfter differ ih =>
      rw [differences, if_neg notAfter, if_neg notBefore, if_neg (Ne.symm differ), List.map_cons, ih,
        ← address_eq notBefore notAfter]
      rfl

namespace Snapshot

/-! ### Patches -/

/-- The snapshot with a value at an address, or with no cell there. -/
def put (snapshot : Snapshot) (address : Address) : Option Felt → Snapshot
  | some value => snapshot.insert address value
  | none => snapshot.erase address

private theorem get?_put (snapshot : Snapshot) (address other : Address) (value? : Option Felt) :
    (snapshot.put address value?).get? other =
      if address = other then value? else snapshot.get? other := by
  cases value? with
  | none => exact get?_erase snapshot address other
  | some value => exact get?_insert snapshot address other value

/-- The snapshot with the values on the right sides of differences, put in one after the other. -/
def patch (snapshot : Snapshot) (changes : List Difference) : Snapshot :=
  changes.foldl (fun patched change => patched.put change.address change.right) snapshot

/-- Addresses that a patch does not list keep their values. -/
theorem get?_patch_of_notMem (absent : address ∉ changes.map Difference.address) :
    (snapshot.patch changes).get? address = snapshot.get? address := by
  induction changes generalizing snapshot with
  | nil => rfl
  | cons head rest ih =>
      obtain ⟨other, later⟩ := List.ne_and_not_mem_of_not_mem_cons absent
      rw [patch, List.foldl_cons, ← patch, ih later, get?_put, if_neg (Ne.symm other)]

/-- Addresses that a patch lists once have the value that it lists. -/
theorem get?_patch_of_mem (distinct : (changes.map Difference.address).Nodup)
    (member : change ∈ changes) : (snapshot.patch changes).get? change.address = change.right := by
  induction changes generalizing snapshot with
  | nil => cases member
  | cons head rest ih =>
      obtain ⟨single, distinctRest⟩ := List.nodup_cons.mp distinct
      rw [patch, List.foldl_cons, ← patch]
      rcases List.mem_cons.mp member with rfl | later
      · rw [get?_patch_of_notMem single, get?_put, if_pos rfl]
      · exact ih distinctRest later

private theorem nodup_addresses_differences (left right : Snapshot) :
    ((left.differences right).map Difference.address).Nodup :=
  List.pairwise_map.mpr ((differences_ascending left right).imp UInt64.ne_of_lt)

/-- The differences turn the left snapshot into the right one. -/
theorem patch_eq_of_perm (order : changes.Perm (left.differences right)) :
    left.patch changes = right := by
  have distinct : (changes.map Difference.address).Nodup :=
    (order.map Difference.address).nodup_iff.mpr (nodup_addresses_differences left right)
  apply eq_of_get?_eq
  intro address
  by_cases listed : address ∈ changes.map Difference.address
  · obtain ⟨change, member, rfl⟩ := List.mem_map.mp listed
    rw [get?_patch_of_mem distinct member]
    exact (mem_differences.mp (order.mem_iff.mp member)).2.1
  · rw [get?_patch_of_notMem listed]
    by_contra differ
    exact listed ((order.map Difference.address).mem_iff.mpr (mem_differences_addresses.mpr differ))

/-! ### The rule -/

/-- What the differences of two snapshots are. -/
structure PatchRule (left right : Snapshot) : Prop where
  /-- They come in strictly ascending order of their addresses. -/
  ascending : ((left.differences right).map Difference.address).Pairwise (· < ·)
  /-- Their addresses are those at which the snapshots differ. -/
  addresses : ∀ address, address ∈ (left.differences right).map Difference.address ↔
    left.get? address ≠ right.get? address
  /-- They have the values of both sides. -/
  values : ∀ change ∈ left.differences right,
    change.left = left.get? change.address ∧ change.right = right.get? change.address
  /-- The left snapshot with the right sides put in is the right one, whatever their order. -/
  patched : ∀ changes : List Difference, changes.Perm (left.differences right) →
    left.patch changes = right
  /-- Seen from the right they are the same with their sides exchanged. -/
  exchanged : right.differences left = (left.differences right).map Difference.swap
  /-- There are none exactly if the snapshots are the same. -/
  empty_iff : left.differences right = [] ↔ left = right

/-- **Differences are complete patches.** -/
theorem patchRule (left right : Snapshot) : PatchRule left right where
  ascending := List.pairwise_map.mpr (differences_ascending left right)
  addresses _ := mem_differences_addresses
  values _ member :=
    have ⟨leftEq, rightEq, _⟩ := mem_differences.mp member
    ⟨leftEq, rightEq⟩
  patched _ := patch_eq_of_perm
  exchanged := differences_swap left.cells right.cells
  empty_iff := differences_eq_nil_iff

end Snapshot

end HintFuzz
