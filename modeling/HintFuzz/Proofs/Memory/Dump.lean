import HintFuzz.Memory.Dump
import HintFuzz.Proofs.Bytes.LittleEndian
import HintFuzz.Proofs.Memory.Cells
import Mathlib.Data.Set.Function

/-!
# Dumps are read back

A list of cells is written into a snapshot exactly if no address comes twice, and then the snapshot
has those cells beside its own (`Dump.write_eq_ok_iff`); a list of records is read by writing their
cells (`Dump.decode_flatten`).

The dump of a snapshot has one record for each cell, in address order, and is always read:
its addresses are those of the snapshot, and each value is what its bytes can hold of it
(`Dump.decode_encode`).  What has been read from a dump once fits its bytes, so that it is
read back unchanged, and a snapshot that was read is told by its dump (`Dump.readsBack`).
-/

namespace HintFuzz

open Memory

/-! ### Values cut to their bytes -/

/-- A cell with what the bytes of a dump hold of its value. -/
def Memory.Cell.cut (cell : Cell) : Cell :=
  ⟨cell.address, cell.value.cut⟩

/-- A cell is not cut if its value has 32 bytes. -/
theorem Memory.Cell.cut_eq_self_iff {cell : Cell} : cell.cut = cell ↔ cell.value.value < 2 ^ 256 := by
  obtain ⟨address, value⟩ := cell
  rw [← Felt.cut_eq_self_iff, cut, Cell.mk.injEq]
  exact and_iff_right rfl

/-- A snapshot with what the bytes of a dump hold of its values. -/
def Snapshot.cut (snapshot : Snapshot) : Snapshot where
  cells := snapshot.cells.map Cell.cut
  sorted := List.pairwise_map.mpr snapshot.sorted

/-- All values of a snapshot fit the bytes of a dump. -/
def Snapshot.Fits (snapshot : Snapshot) : Prop :=
  ∀ cell ∈ snapshot.cells, cell.value.value < 2 ^ 256

/-- A snapshot is not cut if all of its values fit. -/
theorem Snapshot.cut_eq_self_iff {snapshot : Snapshot} : snapshot.cut = snapshot ↔ snapshot.Fits := by
  have cells : snapshot.cut = snapshot ↔
      snapshot.cells.map Cell.cut = snapshot.cells.map id := by
    rw [List.map_id]
    exact ⟨congrArg Snapshot.cells, fun same => Snapshot.eq_of_cells_eq same⟩
  rw [cells, List.map_inj_left]
  exact forall₂_congr fun _ _ => Cell.cut_eq_self_iff

namespace Dump

variable {snapshot after : Snapshot} {cells : List Cell} {cell : Cell} {bytes : Bytes}
  {parts : List Bytes}

/-! ### Writing cells -/

/-- A cell at a free address is added to those that are there. -/
theorem append_insert_perm (absent : cell.address ∉ snapshot.cells.map Cell.address)
    (before : List Cell) :
    (before ++ (snapshot.insert cell.address cell.value).cells).Perm
      (cell :: before ++ snapshot.cells) :=
  ((insertCell_perm absent).append_left before).trans List.perm_middle

/-- All cells are written exactly if none is at an address of another, or of a cell that is there. -/
theorem write_eq_ok_iff :
    write snapshot cells = .ok after ↔ after.cells.Perm (cells ++ snapshot.cells) := by
  induction cells generalizing snapshot with
  | nil =>
      rw [write, Except.ok.injEq, List.nil_append]
      exact ⟨fun same => same ▸ .refl _,
        fun same => Snapshot.eq_of_cells_eq (snapshot.sorted.eq_of_perm after.sorted same.symm)⟩
  | cons cell rest ih =>
      rw [write]
      split
      · next taken =>
          have present := Snapshot.isSome_get?_iff.mp taken
          refine iff_of_false (by rintro ⟨⟩) fun same => ?_
          have distinct := (same.map Cell.address).nodup_iff.mp after.sorted.nodup_addresses
          rw [List.cons_append, List.map_cons, List.nodup_cons, List.map_append] at distinct
          exact absurd (List.mem_append_right _ present) distinct.1
      · next free =>
          have absent : cell.address ∉ snapshot.cells.map Cell.address := fun present =>
            free (Snapshot.isSome_get?_iff.mpr present)
          have joined := append_insert_perm absent rest
          rw [ih]
          exact ⟨fun same => same.trans joined, fun same => same.trans joined.symm⟩

/-- Only cells that were written before, or are written now, are in the snapshot after. -/
theorem mem_of_write (written : write snapshot cells = .ok after) (member : cell ∈ after.cells) :
    cell ∈ snapshot.cells ∨ cell ∈ cells := by
  have found := (write_eq_ok_iff.mp written).mem_iff.mp member
  exact (List.mem_append.mp found).symm

/-! ### Records -/

/-- All records have the same length. -/
@[simp]
theorem length_record (cell : Cell) : (record cell).length = recordBytes := by
  rw [record, List.length_append, Felt.toBytes, LittleEndian.length_ofNat,
    LittleEndian.length_ofNat, recordBytes]

/-- A record starts with the address of its cell. -/
theorem address_record (cell : Cell) :
    LittleEndian.toNat ((record cell).take addressBytes) = cell.address.toNat := by
  have start : (record cell).take addressBytes = LittleEndian.ofNat addressBytes cell.address.toNat :=
    List.take_left' (LittleEndian.length_ofNat _ _)
  rw [start]
  exact LittleEndian.toNat_ofNat_word cell.address

/-- The record of a cell is read as that cell, its value cut to the bytes of the record. -/
theorem cellOf_record (cell : Cell) : cellOf (record cell) = cell.cut := by
  have rest : (record cell).drop addressBytes = cell.value.toBytes :=
    List.drop_left' (LittleEndian.length_ofNat _ _)
  rw [cellOf, address_record, rest, Felt.ofBytes_toBytes, UInt64.ofNat_toNat]
  rfl

private theorem length_le_of_mem_records {count : Nat} {found : Bytes}
    (member : found ∈ records count bytes) :
    found.length ≤ recordBytes := by
  induction count generalizing bytes with
  | zero => cases member
  | succ count ih =>
      rcases List.mem_cons.mp member with rfl | later
      · exact List.length_take_le _ _
      · exact ih later

/-- The value of a record fits the bytes that it is read from. -/
theorem value_cellOf_lt {found : Bytes} (short : found.length ≤ recordBytes) :
    (cellOf found).value.value < 2 ^ 256 := by
  have fewer : (found.drop addressBytes).length ≤ Felt.byteCount := by
    rw [List.length_drop]
    exact Nat.sub_le_of_le_add (Nat.add_comm _ _ ▸ short)
  calc LittleEndian.toNat (found.drop addressBytes)
      < 256 ^ (found.drop addressBytes).length := LittleEndian.toNat_lt _
    _ ≤ 256 ^ Felt.byteCount := Nat.pow_le_pow_right (by decide) fewer
    _ = 2 ^ 256 := by decide

/-! ### Lists of records -/

/-- Strings of bytes that are as long as records. -/
def AreRecords (parts : List Bytes) : Prop :=
  ∀ part ∈ parts, part.length = recordBytes

/-- Records take their number times the length of one. -/
theorem length_flatten (areRecords : AreRecords parts) :
    parts.flatten.length = recordBytes * parts.length := by
  induction parts with
  | nil => rfl
  | cons part rest ih =>
      rw [List.flatten_cons, List.length_append, areRecords part List.mem_cons_self,
        ih fun other member => areRecords other (List.mem_cons_of_mem _ member), List.length_cons,
        Nat.mul_succ, Nat.add_comm]

/-- Records that stand one behind the other are taken apart again. -/
theorem records_flatten (areRecords : AreRecords parts) :
    records parts.length parts.flatten = parts := by
  induction parts with
  | nil => rfl
  | cons part rest ih =>
      have length := areRecords part List.mem_cons_self
      rw [List.flatten_cons, List.length_cons, records, List.take_left' length,
        List.drop_left' length,
        ih fun other member => areRecords other (List.mem_cons_of_mem _ member)]

/-- What is written for cells are records. -/
theorem areRecords_map_record (cells : List Cell) : AreRecords (cells.map record) := by
  intro part member
  obtain ⟨cell, -, rfl⟩ := List.mem_map.mp member
  exact length_record cell

private theorem length_flatMap_record (cells : List Cell) :
    (cells.flatMap record).length = recordBytes * cells.length := by
  rw [List.flatMap_def, length_flatten (areRecords_map_record cells), List.length_map]

private theorem records_flatMap_record (cells : List Cell) :
    records cells.length (cells.flatMap record) = cells.map record := by
  have whole := records_flatten (areRecords_map_record cells)
  rw [List.length_map] at whole
  exact List.flatMap_def ▸ whole

/-! ### Dumps -/

/-- Reading a list of records is writing their cells. -/
theorem decode_flatten (areRecords : AreRecords parts) :
    decode parts.flatten = write .empty (parts.map cellOf) := by
  have count : recordBytes * parts.length / recordBytes = parts.length :=
    Nat.mul_div_cancel_left _ (by decide)
  simp only [decode, length_flatten areRecords, Nat.mul_mod_right, count,
    records_flatten areRecords]
  rfl

/-- A dump consists of the records of the cells, in order. -/
theorem encode_eq_flatten (snapshot : Snapshot) :
    encode snapshot = (snapshot.cells.map record).flatten :=
  List.flatMap_def

/-- Dumps are always read, and nothing but what their bytes cannot hold is lost. -/
theorem decode_encode (snapshot : Snapshot) : decode (encode snapshot) = .ok snapshot.cut := by
  have cells : (snapshot.cells.map record).map cellOf = snapshot.cut.cells := by
    rw [List.map_map]
    exact List.map_congr_left fun cell _ => cellOf_record cell
  rw [encode_eq_flatten, decode_flatten (areRecords_map_record _), cells, write_eq_ok_iff]
  exact List.Perm.of_eq (List.append_nil _).symm

/-- What was read from a dump fits the bytes of a dump. -/
theorem fits_of_decode (decoded : decode bytes = .ok snapshot) : snapshot.Fits := by
  intro cell member
  simp only [decode] at decoded
  split at decoded
  · cases decoded
  · rcases mem_of_write decoded member with old | found
    · cases old
    · obtain ⟨record, recordMember, rfl⟩ := List.mem_map.mp found
      exact value_cellOf_lt (length_le_of_mem_records recordMember)

/-- How a dump is made and read back. -/
structure ReadsBack : Prop where
  /-- A dump has forty bytes for each cell. -/
  length : ∀ snapshot, (encode snapshot).length = 40 * snapshot.size
  /-- The records start with the addresses of the cells. -/
  addresses : ∀ snapshot,
    (records snapshot.size (encode snapshot)).map (fun record => LittleEndian.toNat (record.take 8)) =
      snapshot.cells.map fun cell => cell.address.toNat
  /-- These are in strictly ascending order. -/
  ascending : ∀ snapshot,
    ((records snapshot.size (encode snapshot)).map
      fun record => LittleEndian.toNat (record.take 8)).Pairwise (· < ·)
  /-- Every dump is read: the addresses are the same, the values are reduced. -/
  decodes : ∀ snapshot, ∃ decoded, decode (encode snapshot) = .ok decoded ∧
    decoded.cells = snapshot.cells.map fun cell => ⟨cell.address, ⟨cell.value.value % 2 ^ 256⟩⟩
  /-- A snapshot is read back unchanged exactly if its values fit. -/
  unchanged : ∀ snapshot, decode (encode snapshot) = .ok snapshot ↔
    ∀ cell ∈ snapshot.cells, cell.value.value < 2 ^ 256
  /-- The values of every snapshot that was read fit. -/
  fits : ∀ bytes snapshot, decode bytes = .ok snapshot →
    ∀ cell ∈ snapshot.cells, cell.value.value < 2 ^ 256
  /-- Snapshots that were read are told by their dumps. -/
  injective : Set.InjOn encode {snapshot | ∃ bytes, decode bytes = .ok snapshot}

/-- A snapshot is read back unchanged exactly if its values fit the bytes of a dump. -/
theorem decode_encode_eq_self_iff : decode (encode snapshot) = .ok snapshot ↔ snapshot.Fits := by
  rw [decode_encode, Except.ok.injEq, Snapshot.cut_eq_self_iff]

private theorem addresses_encode (snapshot : Snapshot) :
    (records snapshot.size (encode snapshot)).map
        (fun record => LittleEndian.toNat (record.take addressBytes)) =
      snapshot.cells.map fun cell => cell.address.toNat := by
  rw [encode, Snapshot.size, records_flatMap_record, List.map_map]
  exact List.map_congr_left fun cell _ => address_record cell

/-- **Dumps are read back**, with their values reduced to what their bytes hold. -/
theorem readsBack : ReadsBack where
  length snapshot := length_flatMap_record snapshot.cells
  addresses := addresses_encode
  ascending snapshot := by
    have addresses := addresses_encode snapshot
    rw [addressBytes] at addresses
    rw [addresses, List.pairwise_map]
    exact snapshot.sorted.imp UInt64.lt_iff_toNat_lt.mp
  decodes snapshot := ⟨snapshot.cut, decode_encode snapshot, rfl⟩
  unchanged _ := decode_encode_eq_self_iff
  fits _ _ := fits_of_decode
  injective := by
    rintro left ⟨leftBytes, leftDecoded⟩ right ⟨rightBytes, rightDecoded⟩ same
    have leftBack := decode_encode_eq_self_iff.mpr (fits_of_decode leftDecoded)
    have rightBack := decode_encode_eq_self_iff.mpr (fits_of_decode rightDecoded)
    rw [same, rightBack] at leftBack
    exact (Except.ok.inj leftBack).symm

end Dump

end HintFuzz
