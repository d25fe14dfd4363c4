import HintFuzz.Proofs.Memory.Differences

/-!
# Snapshots as finite maps

A snapshot is known by the values at its addresses (`Snapshot.eq_of_get?_eq`).  Writing a cell or
leaving one out changes the value at its address and no other (`Snapshot.get?_insert`,
`Snapshot.get?_erase`), and a cell at a new address joins the cells that are there
(`Memory.insertCell_perm`).
-/

namespace HintFuzz

namespace Memory

variable {cell : Cell} {cells left right : List Cell} {address : Address}

/-- The same cells in ascending order are the same list. -/
theorem Ascending.eq_of_perm (leftSorted : Ascending left) (rightSorted : Ascending right)
    (same : left.Perm right) : left = right :=
  same.eq_of_pairwise (fun _ _ _ _ before after => absurd after (UInt64.lt_asymm before))
    leftSorted rightSorted

/-- Cells in ascending order have different addresses. -/
theorem Ascending.nodup_addresses (sorted : Ascending cells) : (cells.map Cell.address).Nodup :=
  List.pairwise_map.mpr (sorted.imp UInt64.ne_of_lt)

/-- A cell at an address of its own joins the others. -/
theorem insertCell_perm (absent : cell.address ∉ cells.map Cell.address) :
    (insertCell cell cells).Perm (cell :: cells) := by
  induction cells with
  | nil => exact .refl _
  | cons head rest ih =>
      obtain ⟨other, later⟩ := List.ne_and_not_mem_of_not_mem_cons absent
      rw [insertCell]
      split
      · exact .refl _
      · next notBefore =>
          split
          · exact ((ih later).cons head).trans (.swap cell head rest)
          · next notAfter => exact absurd (address_eq notBefore notAfter) other

private theorem valueAt?_insertCell (cell : Cell) (cells : List Cell) (address : Address) :
    valueAt? (insertCell cell cells) address =
      if cell.address = address then some cell.value else valueAt? cells address := by
  have front (rest : List Cell) : valueAt? (cell :: rest) address =
      if cell.address = address then some cell.value else valueAt? rest address := by
    split
    · next same => exact same ▸ valueAt?_cons_self cell rest
    · next other => exact valueAt?_cons_ne other
  induction cells with
  | nil => exact front []
  | cons head rest ih =>
      rw [insertCell]
      split
      · exact front (head :: rest)
      · next notBefore =>
          split
          · next after =>
              by_cases here : head.address = address
              · subst here
                rw [valueAt?_cons_self, valueAt?_cons_self, if_neg (UInt64.ne_of_lt after).symm]
              · rw [valueAt?_cons_ne here, valueAt?_cons_ne here, ih]
          · next notAfter =>
              rw [front]
              split
              · rfl
              · next other =>
                  exact (valueAt?_cons_ne (address_eq notBefore notAfter ▸ other)).symm

end Memory

namespace Snapshot

open Memory

variable {snapshot left right : Snapshot} {address other : Address}

/-- Snapshots with the same cells are the same. -/
theorem eq_of_cells_eq (same : left.cells = right.cells) : left = right := by
  cases left
  cases right
  cases same
  rfl

/-- Snapshots with the same values at all addresses are the same. -/
theorem eq_of_get?_eq (same : ∀ address, left.get? address = right.get? address) : left = right := by
  apply differences_eq_nil_iff.mp
  rw [List.eq_nil_iff_forall_not_mem]
  intro difference found
  obtain ⟨leftEq, rightEq, differ⟩ := mem_differences.mp found
  exact differ (leftEq.trans ((same difference.address).trans rightEq.symm))

/-- Exactly the addresses of the cells have a value. -/
theorem isSome_get?_iff :
    (snapshot.get? address).isSome = true ↔ address ∈ snapshot.cells.map Cell.address := by
  rw [get?, Option.isSome_map, List.find?_isSome, List.mem_map]
  simp only [decide_eq_true_eq]

/-- A value that is put in stands at its address, and nothing else changes. -/
theorem get?_insert (snapshot : Snapshot) (address other : Address) (value : Felt) :
    (snapshot.insert address value).get? other =
      if address = other then some value else snapshot.get? other :=
  valueAt?_insertCell ⟨address, value⟩ snapshot.cells other

/-- The snapshot without the cell at an address. -/
def erase (snapshot : Snapshot) (address : Address) : Snapshot where
  cells := snapshot.cells.filter fun cell => cell.address ≠ address
  sorted := snapshot.sorted.filter _

/-- What is taken out is gone from its address, and nothing else changes. -/
theorem get?_erase (snapshot : Snapshot) (address other : Address) :
    (snapshot.erase address).get? other = if address = other then none else snapshot.get? other := by
  rw [get?, erase, List.find?_filter]
  split
  · next same =>
      subst same
      rw [Option.map_eq_none_iff, List.find?_eq_none]
      intro cell _
      simp
  · next different =>
      -- No cell at the other address is left out.
      have kept (cell : Cell) : (decide (cell.address ≠ address) ∧ decide (cell.address = other)) ↔
          decide (cell.address = other) := by
        by_cases here : cell.address = other
        · simp [here, Ne.symm different]
        · simp [here]
      simp only [kept, Bool.decide_eq_true]
      rfl

end Snapshot

end HintFuzz
