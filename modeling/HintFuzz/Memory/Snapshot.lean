import HintFuzz.Felt

/-!
# Memory snapshots

The final memory of one run: the written cells in ascending address order, one
value each.  Since the order is part of the type, two snapshots are equal
exactly when they hold the same value at every address.
-/

namespace HintFuzz

/-- A relocated memory address. -/
abbrev Address := UInt64

namespace Memory

/-- A written cell. -/
structure Cell where
  address : Address
  value : Felt
deriving DecidableEq, Repr

/-- Writes a cell into a list of cells in ascending address order; an earlier
value at its address is replaced. -/
def insertCell (cell : Cell) : List Cell → List Cell
  | [] => [cell]
  | head :: rest =>
    if cell.address < head.address then cell :: head :: rest
    else if head.address < cell.address then head :: insertCell cell rest
    else cell :: rest

/-- Cells in strictly ascending address order. -/
def Ascending (cells : List Cell) : Prop :=
  cells.Pairwise fun left right => left.address < right.address

private theorem mem_insertCell {cell other : Cell} {cells : List Cell}
    (member : other ∈ insertCell cell cells) : other = cell ∨ other ∈ cells := by
  induction cells with
  | nil => simpa [insertCell] using member
  | cons head rest ih =>
    simp only [insertCell] at member
    split at member
    · simpa using member
    · split at member
      · rcases List.mem_cons.mp member with rfl | later
        · simp
        · rcases ih later with rfl | old
          · simp
          · exact .inr (List.mem_cons_of_mem _ old)
      · rcases List.mem_cons.mp member with rfl | later
        · simp
        · exact .inr (List.mem_cons_of_mem _ later)

/-- Cells stay in ascending order when one is put among them. -/
theorem Ascending.insertCell {cell : Cell} {cells : List Cell} (sorted : Ascending cells) :
    Ascending (insertCell cell cells) := by
  induction cells with
  | nil => simp [Memory.insertCell, Ascending]
  | cons head rest ih =>
    have ⟨first, later⟩ := List.pairwise_cons.mp sorted
    simp only [Memory.insertCell]
    split
    · next before =>
      refine List.pairwise_cons.mpr ⟨?_, sorted⟩
      intro other member
      rcases List.mem_cons.mp member with rfl | old
      · exact before
      · exact UInt64.lt_trans before (first other old)
    · next notBefore =>
      split
      · next after =>
        refine List.pairwise_cons.mpr ⟨?_, ih later⟩
        intro other member
        rcases mem_insertCell member with rfl | old
        · exact after
        · exact first other old
      · next notAfter =>
        have same : cell.address = head.address :=
          UInt64.le_antisymm (UInt64.not_lt.mp notAfter) (UInt64.not_lt.mp notBefore)
        refine List.pairwise_cons.mpr ⟨?_, later⟩
        intro other member
        exact same ▸ first other member

end Memory

/-- The final memory of one run. -/
structure Snapshot where
  cells : List Memory.Cell
  sorted : Memory.Ascending cells
deriving DecidableEq

namespace Snapshot

open Memory

/-- The memory without any written cell. -/
def empty : Snapshot :=
  ⟨[], List.Pairwise.nil⟩

/-- Writes one cell; an earlier value at its address is replaced. -/
def insert (snapshot : Snapshot) (address : Address) (value : Felt) : Snapshot :=
  ⟨insertCell ⟨address, value⟩ snapshot.cells, snapshot.sorted.insertCell⟩

/-- The value at an address, if its cell is written. -/
def get? (snapshot : Snapshot) (address : Address) : Option Felt :=
  (snapshot.cells.find? fun cell => cell.address = address).map Cell.value

/-- How many cells are written. -/
def size (snapshot : Snapshot) : Nat :=
  snapshot.cells.length

/-- The lowest and the highest written address. -/
def range? (snapshot : Snapshot) : Option (Address × Address) := do
  let first ← snapshot.cells.head?
  let last ← snapshot.cells.getLast?
  return (first.address, last.address)

end Snapshot

namespace Memory

/-- An address at which two snapshots differ, with the value on either side;
`none` stands for a cell that is not written. -/
structure Difference where
  address : Address
  left : Option Felt
  right : Option Felt
deriving DecidableEq, Repr

/-- The differences of two lists of cells in ascending address order, found by
walking both lists at once. -/
def differences : (left right : List Cell) → List Difference
  | [], right => right.map fun cell => ⟨cell.address, none, some cell.value⟩
  | left, [] => left.map fun cell => ⟨cell.address, some cell.value, none⟩
  | l :: left, r :: right =>
    if l.address < r.address then
      ⟨l.address, some l.value, none⟩ :: differences left (r :: right)
    else if r.address < l.address then
      ⟨r.address, none, some r.value⟩ :: differences (l :: left) right
    else if l.value = r.value then differences left right
    else ⟨l.address, some l.value, some r.value⟩ :: differences left right
termination_by left right => left.length + right.length

end Memory

/-- Every address at which two snapshots differ, in ascending order. -/
def Snapshot.differences (left right : Snapshot) : List Memory.Difference :=
  Memory.differences left.cells right.cells

end HintFuzz
