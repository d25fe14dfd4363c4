import HintFuzz.Memory.Snapshot
import Mathlib.Data.Finset.Card
import Mathlib.Order.Bounds.Defs

/-!
# Differences of snapshots

Walking two snapshots at once finds every address at which they differ, with the
values on both sides, in ascending order (`Snapshot.mem_differences`,
`Snapshot.differences_ascending`).  The first one is the least such address, and
there are as many as addresses of either snapshot with different values.
-/

namespace HintFuzz.Memory

/-! ### Values at addresses -/

/-- The value that a list of cells holds at an address. -/
def valueAt? (cells : List Cell) (address : Address) : Option Felt :=
  (cells.find? fun cell => cell.address = address).map Cell.value

variable {cell l r : Cell} {cells left right : List Cell} {address : Address} {value : Felt}

/-- The first cell gives the value at its address. -/
theorem valueAt?_cons_self (cell : Cell) (cells : List Cell) :
    valueAt? (cell :: cells) cell.address = some cell.value := by
  rw [valueAt?, List.find?_cons_of_pos (by simp only [decide_true]), Option.map_some]

/-- It gives none at another address. -/
theorem valueAt?_cons_ne (other : cell.address ≠ address) :
    valueAt? (cell :: cells) address = valueAt? cells address := by
  rw [valueAt?, List.find?_cons_of_neg (by simpa using other), valueAt?]

/-- There is no value at an address that no cell has. -/
theorem valueAt?_eq_none (absent : ∀ cell ∈ cells, cell.address ≠ address) :
    valueAt? cells address = none := by
  rw [valueAt?, Option.map_eq_none_iff, List.find?_eq_none]
  intro cell member
  simpa using absent cell member

/-- What is below the first cell of an ascending list is below all of it. -/
theorem Ascending.below (sorted : Ascending (cell :: cells)) (below : address < cell.address) :
    ∀ other ∈ cell :: cells, address < other.address := by
  intro other member
  rcases List.mem_cons.mp member with rfl | later
  · exact below
  · exact UInt64.lt_trans below ((List.pairwise_cons.mp sorted).1 other later)

/-- There is no value below the first cell of an ascending list. -/
theorem valueAt?_eq_none_of_lt (sorted : Ascending (cell :: cells))
    (below : address < cell.address) : valueAt? (cell :: cells) address = none := by
  apply valueAt?_eq_none
  intro other member same
  exact UInt64.lt_irrefl _ (same ▸ sorted.below below other member)

/-- There is no value at the address of the first cell of an ascending list in
the rest of it. -/
theorem valueAt?_tail_eq_none (sorted : Ascending (cell :: cells)) :
    valueAt? cells cell.address = none := by
  apply valueAt?_eq_none
  intro other member same
  exact UInt64.lt_irrefl _ (same ▸ (List.pairwise_cons.mp sorted).1 other member)

/-- The values of an ascending list are those of its cells. -/
theorem valueAt?_eq_some_iff (sorted : Ascending cells) :
    valueAt? cells address = some value ↔ ⟨address, value⟩ ∈ cells := by
  induction cells with
  | nil => exact ⟨nofun, nofun⟩
  | cons head rest ih =>
      by_cases same : head.address = address
      · subst same
        rw [valueAt?_cons_self, List.mem_cons]
        constructor
        · rintro ⟨⟩
          exact .inl rfl
        · rintro (first | later)
          · rw [← first]
          · have present := (ih (List.pairwise_cons.mp sorted).2).mpr later
            rw [valueAt?_tail_eq_none sorted] at present
            cases present
      · rw [valueAt?_cons_ne same, ih (List.pairwise_cons.mp sorted).2, List.mem_cons]
        constructor
        · exact .inr
        · rintro (rfl | later)
          · exact absurd rfl same
          · exact later

/-! ### The walk over two lists -/

/-- A difference as two lists of cells show it. -/
structure Difference.Between (left right : List Cell) (difference : Difference) : Prop where
  left_eq : difference.left = valueAt? left difference.address
  right_eq : difference.right = valueAt? right difference.address
  differ : difference.left ≠ difference.right

open Difference (Between)

variable {difference : Difference}

/-- A difference is at the address of a cell of either list. -/
theorem Difference.Between.mem_addresses (between : Between left right difference) :
    difference.address ∈ left.map Cell.address ∨ difference.address ∈ right.map Cell.address := by
  by_contra absent
  rw [not_or] at absent
  have none_of {cells : List Cell} (missing : difference.address ∉ cells.map Cell.address) :
      valueAt? cells difference.address = none :=
    valueAt?_eq_none fun cell member same => missing (List.mem_map.mpr ⟨cell, member, same⟩)
  exact between.differ (by
    rw [between.left_eq, between.right_eq, none_of absent.1, none_of absent.2])

/-- A cell in front of the left list, at an address that neither list has, is one
more difference. -/
theorem between_cons_left (leftAbsent : valueAt? left l.address = none)
    (rightAbsent : valueAt? right l.address = none) :
    Between (l :: left) right difference ↔
      difference = ⟨l.address, some l.value, none⟩ ∨ Between left right difference := by
  obtain ⟨address, x, y⟩ := difference
  by_cases same : l.address = address
  · subst same
    constructor
    · rintro ⟨leftEq, rightEq, -⟩
      simp only [valueAt?_cons_self, rightAbsent] at leftEq rightEq
      rw [leftEq, rightEq]
      exact .inl rfl
    · rintro (first | ⟨leftEq, rightEq, differ⟩)
      · cases first
        exact ⟨(valueAt?_cons_self l left).symm, rightAbsent.symm, nofun⟩
      · simp only [leftAbsent, rightAbsent] at leftEq rightEq
        exact absurd (leftEq.trans rightEq.symm) differ
  · constructor
    · rintro ⟨leftEq, rightEq, differ⟩
      simp only [valueAt?_cons_ne same] at leftEq
      exact .inr ⟨leftEq, rightEq, differ⟩
    · rintro (first | ⟨leftEq, rightEq, differ⟩)
      · cases first
        exact absurd rfl same
      · exact ⟨leftEq.trans (valueAt?_cons_ne same).symm, rightEq, differ⟩

/-- The two sides of a difference exchanged. -/
def Difference.swap (difference : Difference) : Difference :=
  ⟨difference.address, difference.right, difference.left⟩

private theorem between_swap : Between left right difference.swap ↔ Between right left difference :=
  ⟨fun ⟨leftEq, rightEq, differ⟩ => ⟨rightEq, leftEq, differ.symm⟩,
    fun ⟨leftEq, rightEq, differ⟩ => ⟨rightEq, leftEq, differ.symm⟩⟩

/-- A cell in front of the right list, at an address that neither list has, is
one more difference. -/
theorem between_cons_right (leftAbsent : valueAt? left r.address = none)
    (rightAbsent : valueAt? right r.address = none) :
    Between left (r :: right) difference ↔
      difference = ⟨r.address, none, some r.value⟩ ∨ Between left right difference := by
  rw [← between_swap, between_cons_left rightAbsent leftAbsent, between_swap]
  refine or_congr ?_ Iff.rfl
  obtain ⟨address, x, y⟩ := difference
  simp only [Difference.swap, Difference.mk.injEq]
  exact and_congr_right fun _ => and_comm

/-- Cells at one address in front of both lists are one more difference if their
values differ. -/
theorem between_cons_both (same : l.address = r.address)
    (leftAbsent : valueAt? left l.address = none) (rightAbsent : valueAt? right l.address = none) :
    Between (l :: left) (r :: right) difference ↔
      (l.value ≠ r.value ∧ difference = ⟨l.address, some l.value, some r.value⟩) ∨
        Between left right difference := by
  have rightValue : valueAt? (r :: right) l.address = some r.value :=
    same ▸ valueAt?_cons_self r right
  obtain ⟨address, x, y⟩ := difference
  by_cases here : l.address = address
  · subst here
    constructor
    · rintro ⟨leftEq, rightEq, differ⟩
      simp only [valueAt?_cons_self, rightValue] at leftEq rightEq
      rw [leftEq, rightEq] at differ ⊢
      exact .inl ⟨fun equal => differ (congrArg some equal), rfl⟩
    · rintro (⟨differ, first⟩ | ⟨leftEq, rightEq, differ⟩)
      · cases first
        exact ⟨(valueAt?_cons_self l left).symm, rightValue.symm,
          fun equal => differ (Option.some.inj equal)⟩
      · simp only [leftAbsent, rightAbsent] at leftEq rightEq
        exact absurd (leftEq.trans rightEq.symm) differ
  · have there : r.address ≠ address := same ▸ here
    constructor
    · rintro ⟨leftEq, rightEq, differ⟩
      simp only [valueAt?_cons_ne here, valueAt?_cons_ne there] at leftEq rightEq
      exact .inr ⟨leftEq, rightEq, differ⟩
    · rintro (⟨-, first⟩ | ⟨leftEq, rightEq, differ⟩)
      · cases first
        exact absurd rfl here
      · exact ⟨leftEq.trans (valueAt?_cons_ne here).symm,
          rightEq.trans (valueAt?_cons_ne there).symm, differ⟩

/-- Cells of which neither comes first are at one address. -/
theorem address_eq (notBefore : ¬l.address < r.address) (notAfter : ¬r.address < l.address) :
    l.address = r.address :=
  UInt64.le_antisymm (UInt64.not_lt.mp notAfter) (UInt64.not_lt.mp notBefore)

/-- The walk finds exactly the differences between two ascending lists. -/
theorem mem_differences_iff (leftSorted : Ascending left) (rightSorted : Ascending right) :
    difference ∈ differences left right ↔ Between left right difference := by
  fun_induction differences left right with
  | case1 right =>
      -- One list is used up, so that every cell left in the other is a difference.
      induction right with
      | nil => exact ⟨nofun, fun between => absurd (between.left_eq.trans between.right_eq.symm)
          between.differ⟩
      | cons r right ih =>
          rw [between_cons_right rfl (valueAt?_tail_eq_none rightSorted), List.map_cons,
            List.mem_cons, ih (List.pairwise_cons.mp rightSorted).2]
  | case2 left nonempty =>
      clear nonempty
      induction left with
      | nil => exact ⟨nofun, fun between => absurd (between.left_eq.trans between.right_eq.symm)
          between.differ⟩
      | cons l left ih =>
          rw [between_cons_left (valueAt?_tail_eq_none leftSorted) rfl, List.map_cons,
            List.mem_cons, ih (List.pairwise_cons.mp leftSorted).2]
  | case3 l left r right before ih =>
      rw [between_cons_left (valueAt?_tail_eq_none leftSorted)
        (valueAt?_eq_none_of_lt rightSorted before), List.mem_cons,
        ih (List.pairwise_cons.mp leftSorted).2 rightSorted]
  | case4 l left r right notBefore after ih =>
      rw [between_cons_right (valueAt?_eq_none_of_lt leftSorted after)
        (valueAt?_tail_eq_none rightSorted), List.mem_cons,
        ih leftSorted (List.pairwise_cons.mp rightSorted).2]
  | case5 l left r right notBefore notAfter same ih =>
      have here : l.address = r.address := address_eq notBefore notAfter
      rw [between_cons_both here (valueAt?_tail_eq_none leftSorted)
        (here ▸ valueAt?_tail_eq_none rightSorted),
        ih (List.pairwise_cons.mp leftSorted).2 (List.pairwise_cons.mp rightSorted).2]
      simp only [ne_eq, same, not_true_eq_false, false_and, false_or]
  | case6 l left r right notBefore notAfter differ ih =>
      have here : l.address = r.address := address_eq notBefore notAfter
      rw [between_cons_both here (valueAt?_tail_eq_none leftSorted)
        (here ▸ valueAt?_tail_eq_none rightSorted), List.mem_cons,
        ih (List.pairwise_cons.mp leftSorted).2 (List.pairwise_cons.mp rightSorted).2]
      simp only [ne_eq, differ, not_false_eq_true, true_and]

/-- What is below all cells is below all differences. -/
theorem lt_of_mem_differences (leftSorted : Ascending left) (rightSorted : Ascending right)
    (leftBelow : ∀ cell ∈ left, address < cell.address)
    (rightBelow : ∀ cell ∈ right, address < cell.address) :
    ∀ difference ∈ differences left right, address < difference.address := by
  intro difference found
  have between := (mem_differences_iff leftSorted rightSorted).mp found
  rcases between.mem_addresses with there | there
  · obtain ⟨cell, member, same⟩ := List.mem_map.mp there
    exact same ▸ leftBelow cell member
  · obtain ⟨cell, member, same⟩ := List.mem_map.mp there
    exact same ▸ rightBelow cell member

/-- The walk finds differences in ascending order. -/
theorem differences_pairwise (leftSorted : Ascending left) (rightSorted : Ascending right) :
    (differences left right).Pairwise fun first second => first.address < second.address := by
  fun_induction differences left right with
  | case1 right => exact List.Pairwise.map _ (fun _ _ before => before) rightSorted
  | case2 left _ => exact List.Pairwise.map _ (fun _ _ before => before) leftSorted
  | case3 l left r right before ih =>
      obtain ⟨first, later⟩ := List.pairwise_cons.mp leftSorted
      exact List.pairwise_cons.mpr
        ⟨lt_of_mem_differences later rightSorted first (rightSorted.below before),
          ih later rightSorted⟩
  | case4 l left r right notBefore after ih =>
      obtain ⟨first, later⟩ := List.pairwise_cons.mp rightSorted
      exact List.pairwise_cons.mpr
        ⟨lt_of_mem_differences leftSorted later (leftSorted.below after) first,
          ih leftSorted later⟩
  | case5 l left r right notBefore notAfter same ih =>
      exact ih (List.pairwise_cons.mp leftSorted).2 (List.pairwise_cons.mp rightSorted).2
  | case6 l left r right notBefore notAfter differ ih =>
      have here : l.address = r.address := address_eq notBefore notAfter
      obtain ⟨leftFirst, leftLater⟩ := List.pairwise_cons.mp leftSorted
      obtain ⟨rightFirst, rightLater⟩ := List.pairwise_cons.mp rightSorted
      exact List.pairwise_cons.mpr
        ⟨lt_of_mem_differences leftLater rightLater leftFirst (here ▸ rightFirst),
          ih leftLater rightLater⟩

/-- Lists without a difference are the same. -/
theorem eq_of_differences_eq_nil (same : differences left right = []) : left = right := by
  fun_induction differences left right with
  | case1 right => exact (List.map_eq_nil_iff.mp same).symm
  | case2 left _ => exact List.map_eq_nil_iff.mp same
  | case3 => cases same
  | case4 => cases same
  | case5 l left r right notBefore notAfter sameValue ih =>
      have here : l.address = r.address := address_eq notBefore notAfter
      cases l
      cases r
      cases here
      cases sameValue
      rw [ih same]
  | case6 => cases same

end HintFuzz.Memory

namespace HintFuzz.Snapshot

open Memory

variable {left right : Snapshot} {difference : Difference}

/-- The differences of two snapshots are the addresses at which one has another
value than the other, or a value where the other has none. -/
theorem mem_differences :
    difference ∈ left.differences right ↔
      difference.left = left.get? difference.address ∧
        difference.right = right.get? difference.address ∧ difference.left ≠ difference.right := by
  rw [differences, mem_differences_iff left.sorted right.sorted]
  exact ⟨fun ⟨leftEq, rightEq, differ⟩ => ⟨leftEq, rightEq, differ⟩,
    fun ⟨leftEq, rightEq, differ⟩ => ⟨leftEq, rightEq, differ⟩⟩

/-- Differences come in ascending order. -/
theorem differences_ascending (left right : Snapshot) :
    (left.differences right).Pairwise fun first second => first.address < second.address :=
  differences_pairwise left.sorted right.sorted

/-- The addresses at which two snapshots differ. -/
theorem mem_differences_addresses {address : Address} :
    address ∈ (left.differences right).map Difference.address ↔
      left.get? address ≠ right.get? address := by
  rw [List.mem_map]
  constructor
  · rintro ⟨difference, found, rfl⟩
    obtain ⟨leftEq, rightEq, differ⟩ := mem_differences.mp found
    rwa [leftEq, rightEq] at differ
  · intro differ
    exact ⟨⟨address, left.get? address, right.get? address⟩,
      mem_differences.mpr ⟨rfl, rfl, differ⟩, rfl⟩

/-- The first difference is at the least address at which two snapshots differ. -/
theorem isLeast_of_differences_eq_cons {rest : List Difference}
    (found : left.differences right = difference :: rest) :
    IsLeast {address | left.get? address ≠ right.get? address} difference.address := by
  constructor
  · refine mem_differences_addresses.mp (List.mem_map_of_mem ?_)
    rw [found]
    exact List.mem_cons_self
  · intro address differ
    have present := mem_differences_addresses.mpr differ
    have ordered := found ▸ differences_ascending left right
    rw [found, List.map_cons, List.mem_cons] at present
    rcases present with rfl | later
    · exact UInt64.le_refl _
    · obtain ⟨other, member, rfl⟩ := List.mem_map.mp later
      exact UInt64.le_of_lt ((List.pairwise_cons.mp ordered).1 other member)

/-- The written addresses. -/
def domain (snapshot : Snapshot) : Finset Address :=
  (snapshot.cells.map Cell.address).toFinset

/-- The addresses of either snapshot at which the two differ. -/
def differing (left right : Snapshot) : Finset Address :=
  (left.domain ∪ right.domain).filter fun address => left.get? address ≠ right.get? address

/-- Exactly the addresses of written cells have a value. -/
theorem mem_domain {snapshot : Snapshot} {address : Address} :
    address ∈ snapshot.domain ↔ snapshot.get? address ≠ none := by
  rw [domain, List.mem_toFinset, Option.ne_none_iff_exists']
  constructor
  · intro present
    obtain ⟨cell, member, rfl⟩ := List.mem_map.mp present
    exact ⟨cell.value, (valueAt?_eq_some_iff snapshot.sorted).mpr member⟩
  · rintro ⟨value, present⟩
    exact List.mem_map.mpr ⟨_, (valueAt?_eq_some_iff snapshot.sorted).mp present, rfl⟩

/-- Only written addresses can differ. -/
theorem mem_differing {address : Address} :
    address ∈ left.differing right ↔ left.get? address ≠ right.get? address := by
  rw [differing, Finset.mem_filter, Finset.mem_union, mem_domain, mem_domain,
    and_iff_right_iff_imp]
  intro differ
  by_contra absent
  rw [not_or, not_not, not_not] at absent
  exact differ (absent.1.trans absent.2.symm)

/-- There are as many differences as addresses at which the snapshots differ. -/
theorem length_differences :
    (left.differences right).length = (left.differing right).card := by
  have nodup : ((left.differences right).map Difference.address).Nodup :=
    List.Pairwise.map _ (fun _ _ before same => UInt64.lt_irrefl _ (same ▸ before))
      (differences_ascending left right)
  have same : left.differing right =
      ((left.differences right).map Difference.address).toFinset := by
    ext address
    rw [mem_differing, List.mem_toFinset, mem_differences_addresses]
  rw [same, List.toFinset_card_of_nodup nodup, List.length_map]

/-- Snapshots without a difference are the same. -/
theorem differences_eq_nil_iff : left.differences right = [] ↔ left = right := by
  constructor
  · intro none
    have cells := eq_of_differences_eq_nil none
    cases left
    cases right
    cases cells
    rfl
  · rintro rfl
    rw [← List.map_eq_nil_iff (f := Difference.address), List.eq_nil_iff_forall_not_mem]
    intro address present
    exact mem_differences_addresses.mp present rfl

end HintFuzz.Snapshot
