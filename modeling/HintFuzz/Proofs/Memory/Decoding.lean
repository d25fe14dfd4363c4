import HintFuzz.Proofs.Memory.Dump

/-!
# What reading a dump comes to

The records of a dump are read in order.  A list of cells is refused for the first one whose address
is taken, by a cell before it or by one that was there (`Dump.write_eq_error_iff`), and is written
in any other case (`Dump.write_eq_ok_iff`).  So the order of the records is lost, but nothing else:
a dump that was read is written again as its records in ascending order (`Dump.decodingRule`).
-/

namespace HintFuzz.Dump

open Memory

variable {snapshot after : Snapshot} {cells : List Cell} {cell : Cell} {fault : Fault}
  {bytes part : Bytes} {parts : List Bytes}

/-! ### Cells that are refused -/

/-- The first cell whose address is taken, by a cell before it or by one that was there, is
the fault. -/
theorem write_eq_error_iff :
    write snapshot cells = .error fault ↔
      ∃ before cell behind, cells = before ++ cell :: behind ∧
        ((before ++ snapshot.cells).map Cell.address).Nodup ∧
        cell.address ∈ (before ++ snapshot.cells).map Cell.address ∧
        fault = .duplicateAddress cell.address := by
  induction cells generalizing snapshot with
  | nil =>
      rw [write]
      refine iff_of_false (by rintro ⟨⟩) ?_
      rintro ⟨before, cell, behind, split, -⟩
      exact List.append_ne_nil_of_right_ne_nil before (List.cons_ne_nil cell behind) split.symm
  | cons cell rest ih =>
      rw [write]
      split
      · next taken =>
          have present := Snapshot.isSome_get?_iff.mp taken
          constructor
          · rintro ⟨⟩
            exact ⟨[], cell, rest, rfl, snapshot.sorted.nodup_addresses, present, rfl⟩
          · rintro ⟨before, other, behind, split, distinct, -, rfl⟩
            -- No cell can stand before this one, whose address is taken already.
            cases before with
            | nil =>
                cases split
                rfl
            | cons first before =>
                cases split
                rw [List.cons_append, List.map_cons, List.nodup_cons, List.map_append] at distinct
                exact absurd (List.mem_append_right _ present) distinct.1
      · next free =>
          have absent : cell.address ∉ snapshot.cells.map Cell.address := fun present =>
            free (Snapshot.isSome_get?_iff.mpr present)
          have joined (before : List Cell) :=
            (append_insert_perm absent before).map Cell.address
          rw [ih]
          constructor
          · rintro ⟨before, other, behind, rfl, distinct, repeated, rfl⟩
            exact ⟨cell :: before, other, behind, rfl, (joined before).nodup_iff.mp distinct,
              (joined before).mem_iff.mp repeated, rfl⟩
          · rintro ⟨before, other, behind, split, distinct, repeated, rfl⟩
            cases before with
            | nil =>
                cases split
                exact absurd repeated absent
            | cons first before =>
                cases split
                exact ⟨before, other, behind, rfl, (joined before).nodup_iff.mpr distinct,
                  (joined before).mem_iff.mpr repeated, rfl⟩

/-! ### Dumps as lists of records -/

/-- The address that a record starts with. -/
def addressOf (part : Bytes) : Address :=
  UInt64.ofNat (LittleEndian.toNat (part.take 8))

/-- A dump that does not end inside a record is a list of records. -/
theorem exists_records (count : Nat) (length : bytes.length = recordBytes * count) :
    ∃ parts, parts.flatten = bytes ∧ AreRecords parts := by
  induction count generalizing bytes with
  | zero => exact ⟨[], (List.eq_nil_of_length_eq_zero length).symm,
      fun part member => absurd member List.not_mem_nil⟩
  | succ count ih =>
      have enough : recordBytes ≤ bytes.length := by
        rw [length, Nat.mul_succ]
        exact Nat.le_add_left _ _
      have lengthRest : (bytes.drop recordBytes).length = recordBytes * count := by
        rw [List.length_drop, length, Nat.mul_succ, Nat.add_sub_cancel]
      obtain ⟨parts, rest, areRecords⟩ := ih lengthRest
      refine ⟨bytes.take recordBytes :: parts, ?_, ?_⟩
      · rw [List.flatten_cons, rest, List.take_append_drop]
      · intro part member
        rcases List.mem_cons.mp member with rfl | later
        · exact List.length_take_of_le enough
        · exact areRecords part later

private theorem record_cellOf (length : part.length = recordBytes) :
    record (cellOf part) = part := by
  have front : (part.take addressBytes).length = addressBytes :=
    List.length_take_of_le (length ▸ by decide)
  have back : (part.drop addressBytes).length = Felt.byteCount := by
    rw [List.length_drop, length]
    rfl
  have address : LittleEndian.ofNat addressBytes (cellOf part).address.toNat =
      part.take addressBytes := by
    rw [cellOf, LittleEndian.toNat_word front]
    exact LittleEndian.ofNat_toNat front
  have value : (cellOf part).value.toBytes = part.drop addressBytes :=
    Felt.toBytes_ofBytes back
  rw [record, address, value, List.take_append_drop]

/-! ### The rule -/

/-- What reading a list of records comes to. -/
structure ReadsRecords (parts : List Bytes) : Prop where
  /-- The fault is the address of the first record that repeats the one of an earlier record. -/
  fault_iff : ∀ fault, decode parts.flatten = .error fault ↔
    ∃ before part behind, parts = before ++ part :: behind ∧ (before.map addressOf).Nodup ∧
      addressOf part ∈ before.map addressOf ∧ fault = .duplicateAddress (addressOf part)
  /-- The records are read exactly if no two of them share an address. -/
  accepted_iff : (∃ snapshot, decode parts.flatten = .ok snapshot) ↔ (parts.map addressOf).Nodup
  /-- There is one cell for each record. -/
  cells : ∀ snapshot, decode parts.flatten = .ok snapshot →
    snapshot.cells.Perm (parts.map cellOf)
  /-- The same is read in whatever order the records come. -/
  reordered : ∀ others : List Bytes, others.Perm parts → ∀ snapshot,
    decode others.flatten = .ok snapshot ↔ decode parts.flatten = .ok snapshot
  /-- What was read is written as the records in ascending order. -/
  sorted : ∀ snapshot, decode parts.flatten = .ok snapshot →
    ∃ ordered : List Bytes, ordered.Perm parts ∧ (ordered.map addressOf).Pairwise (· < ·) ∧
      encode snapshot = ordered.flatten
  /-- The dump is written again as it was exactly if the records were in that order. -/
  unchanged_iff : (∃ snapshot, decode parts.flatten = .ok snapshot ∧
    encode snapshot = parts.flatten) ↔ (parts.map addressOf).Pairwise (· < ·)

/-- What reading a string of bytes comes to. -/
structure DecodingRule (bytes : Bytes) : Prop where
  /-- A dump that ends inside a record is refused, whatever is in it. -/
  truncated : bytes.length % 40 ≠ 0 →
    ∃ offset, IsGreatest {offset | 40 ∣ offset ∧ offset ≤ bytes.length} offset ∧
      decode bytes = .error (.truncated offset bytes.length)
  /-- Every other dump is a list of records in one way. -/
  divided : bytes.length % 40 = 0 → ∃! parts, AreRecords parts ∧ parts.flatten = bytes
  /-- It is read as these. -/
  reads : ∀ parts, AreRecords parts → parts.flatten = bytes → ReadsRecords parts

/-- Records are read exactly as snapshots that have their cells. -/
theorem decode_flatten_eq_ok_iff (areRecords : AreRecords parts) :
    decode parts.flatten = .ok snapshot ↔ snapshot.cells.Perm (parts.map cellOf) := by
  rw [decode_flatten areRecords, write_eq_ok_iff]
  exact iff_of_eq (congrArg _ (List.append_nil _))

private theorem map_address_cellOf (parts : List Bytes) :
    (parts.map cellOf).map Cell.address = parts.map addressOf :=
  List.map_map

private theorem decode_flatten_eq_error_iff (areRecords : AreRecords parts) :
    decode parts.flatten = .error fault ↔
      ∃ before part behind, parts = before ++ part :: behind ∧ (before.map addressOf).Nodup ∧
        addressOf part ∈ before.map addressOf ∧ fault = .duplicateAddress (addressOf part) := by
  have none (before : List Cell) : before ++ Snapshot.empty.cells = before := List.append_nil _
  rw [decode_flatten areRecords, write_eq_error_iff]
  simp only [none]
  constructor
  · rintro ⟨_, _, _, split, distinct, repeated, rfl⟩
    obtain ⟨before, rest, rfl, rfl, later⟩ := List.map_eq_append_iff.mp split
    obtain ⟨part, behind, rfl, rfl, rfl⟩ := List.map_eq_cons_iff.mp later
    rw [map_address_cellOf] at distinct repeated
    exact ⟨before, part, behind, rfl, distinct, repeated, rfl⟩
  · rintro ⟨before, part, behind, rfl, distinct, repeated, rfl⟩
    refine ⟨before.map cellOf, cellOf part, behind.map cellOf, ?_, ?_, ?_, rfl⟩
    · rw [List.map_append, List.map_cons]
    · rwa [map_address_cellOf]
    · rwa [map_address_cellOf]

/-- Records with addresses of their own are the cells of a snapshot. -/
theorem exists_decode_flatten (areRecords : AreRecords parts)
    (distinct : (parts.map addressOf).Nodup) :
    ∃ snapshot, decode parts.flatten = .ok snapshot := by
  cases decoded : decode parts.flatten with
  | ok snapshot => exact ⟨snapshot, rfl⟩
  | error fault =>
      obtain ⟨before, part, behind, rfl, -, repeated, -⟩ :=
        (decode_flatten_eq_error_iff areRecords).mp decoded
      rw [List.map_append, List.map_cons] at distinct
      exact (List.disjoint_of_nodup_append distinct repeated List.mem_cons_self).elim

/-- The records of a snapshot are those that it was read from. -/
theorem map_record_perm (areRecords : AreRecords parts)
    (decoded : decode parts.flatten = .ok snapshot) : (snapshot.cells.map record).Perm parts := by
  have same := ((decode_flatten_eq_ok_iff areRecords).mp decoded).map record
  have back : (parts.map cellOf).map record = parts := by
    rw [List.map_map]
    exact (List.map_congr_left fun part member => record_cellOf (areRecords part member)).trans
      (List.map_id' parts)
  exact back ▸ same

private theorem addresses_map_record (cells : List Cell) :
    (cells.map record).map addressOf = cells.map Cell.address := by
  rw [List.map_map]
  refine List.map_congr_left fun cell _ => ?_
  exact (congrArg UInt64.ofNat (address_record cell)).trans UInt64.ofNat_toNat

/-- Lists of records with the same bytes are the same. -/
theorem eq_of_flatten_eq {others : List Bytes} (areRecords : AreRecords parts)
    (areRecords' : AreRecords others) (same : parts.flatten = others.flatten) : parts = others := by
  have length : recordBytes * parts.length = recordBytes * others.length := by
    rw [← length_flatten areRecords, same, length_flatten areRecords']
  have count : parts.length = others.length := Nat.eq_of_mul_eq_mul_left (by decide) length
  rw [← records_flatten areRecords, count, same, records_flatten areRecords']

private theorem ascending_addresses (snapshot : Snapshot) :
    ((snapshot.cells.map record).map addressOf).Pairwise (· < ·) := by
  rw [addresses_map_record, List.pairwise_map]
  exact snapshot.sorted

private theorem readsRecords (areRecords : AreRecords parts) : ReadsRecords parts where
  fault_iff _ := decode_flatten_eq_error_iff areRecords
  accepted_iff := by
    refine ⟨?_, exists_decode_flatten areRecords⟩
    rintro ⟨snapshot, decoded⟩
    have same := (decode_flatten_eq_ok_iff areRecords).mp decoded
    rw [← map_address_cellOf]
    exact (same.map Cell.address).nodup_iff.mp snapshot.sorted.nodup_addresses
  cells _ := (decode_flatten_eq_ok_iff areRecords).mp
  reordered others same snapshot := by
    have areRecords' : AreRecords others := fun part member => areRecords part (same.mem_iff.mp member)
    rw [decode_flatten_eq_ok_iff areRecords', decode_flatten_eq_ok_iff areRecords]
    exact ⟨fun cells => cells.trans (same.map cellOf), fun cells => cells.trans (same.map cellOf).symm⟩
  sorted snapshot decoded :=
    ⟨snapshot.cells.map record, map_record_perm areRecords decoded, ascending_addresses snapshot,
      encode_eq_flatten snapshot⟩
  unchanged_iff := by
    constructor
    · rintro ⟨snapshot, -, unchanged⟩
      rw [encode_eq_flatten] at unchanged
      rw [← eq_of_flatten_eq (areRecords_map_record _) areRecords unchanged]
      exact ascending_addresses snapshot
    · intro ascending
      obtain ⟨snapshot, decoded⟩ := exists_decode_flatten areRecords (ascending.imp UInt64.ne_of_lt)
      have written : (snapshot.cells.map record).Pairwise fun left right =>
          addressOf left < addressOf right := List.pairwise_map.mp (ascending_addresses snapshot)
      have given : parts.Pairwise fun left right => addressOf left < addressOf right :=
        List.pairwise_map.mp ascending
      have same : snapshot.cells.map record = parts :=
        (map_record_perm areRecords decoded).eq_of_pairwise
          (fun _ _ _ _ before after => absurd after (UInt64.lt_asymm before)) written given
      exact ⟨snapshot, decoded, by rw [encode_eq_flatten, same]⟩

/-- A number without its remainder is the greatest multiple that is not above it. -/
theorem isGreatest_multiple (length : Nat) :
    IsGreatest {offset | 40 ∣ offset ∧ offset ≤ length} (length - length % 40) := by
  constructor
  · exact ⟨Nat.dvd_sub_mod length, Nat.sub_le _ _⟩
  · rintro offset ⟨⟨count, rfl⟩, below⟩
    omega

/-- **Dumps are read record by record.** -/
theorem decodingRule (bytes : Bytes) : DecodingRule bytes where
  truncated torn := by
    refine ⟨_, isGreatest_multiple bytes.length, ?_⟩
    rw [decode]
    exact if_pos torn
  divided whole := by
    have length : bytes.length = recordBytes * (bytes.length / 40) :=
      (Nat.mul_div_cancel' (Nat.dvd_of_mod_eq_zero whole)).symm
    obtain ⟨parts, rfl, areRecords⟩ := exists_records _ length
    exact ⟨parts, ⟨areRecords, rfl⟩,
      fun others reads => eq_of_flatten_eq reads.1 areRecords reads.2⟩
  reads _ areRecords _ := readsRecords areRecords

end HintFuzz.Dump
