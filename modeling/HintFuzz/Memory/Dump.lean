import HintFuzz.Memory.Snapshot

/-!
# Memory dumps

An engine writes its memory as a flat sequence of records, each an address of
eight bytes and a value of thirty-two bytes, both little-endian.  Cells that
were not written are absent.
-/

namespace HintFuzz.Dump

/-- Bytes of an address. -/
def addressBytes : Nat := 8

/-- Bytes of one record. -/
def recordBytes : Nat := addressBytes + Felt.byteCount

/-- Why a dump cannot be read. -/
inductive Fault
  /-- The dump ends inside the record that starts at `offset`. -/
  | truncated (offset length : Nat)
  /-- Two records have the same address. -/
  | duplicateAddress (address : Address)
deriving DecidableEq, Repr

/-- The wording of a fault. -/
def Fault.message : Fault → String
  | truncated offset length =>
    s!"memory dump of {length} bytes ends inside a record at offset {offset}"
  | duplicateAddress address => s!"address {address} is written twice in the memory dump"

/-- The record of one cell. -/
def record (cell : Memory.Cell) : Bytes :=
  LittleEndian.ofNat addressBytes cell.address.toNat ++ cell.value.toBytes

/-- The dump of a snapshot, in address order. -/
def encode (snapshot : Snapshot) : Bytes :=
  snapshot.cells.flatMap record

/-- The cell that one record writes. -/
def cellOf (record : Bytes) : Memory.Cell :=
  ⟨UInt64.ofNat (LittleEndian.toNat (record.take addressBytes)),
   Felt.ofBytes (record.drop addressBytes)⟩

/-- The first `count` records of a dump. -/
def records : (count : Nat) → Bytes → List Bytes
  | 0, _ => []
  | count + 1, bytes => bytes.take recordBytes :: records count (bytes.drop recordBytes)

/-- Writes cells into a snapshot, none of them twice. -/
def write (snapshot : Snapshot) : List Memory.Cell → Except Fault Snapshot
  | [] => .ok snapshot
  | cell :: rest =>
    if (snapshot.get? cell.address).isSome then .error (.duplicateAddress cell.address)
    else write (snapshot.insert cell.address cell.value) rest

/-- Reads a dump. -/
def decode (bytes : Bytes) : Except Fault Snapshot :=
  let length := bytes.length
  if length % recordBytes ≠ 0 then .error (.truncated (length - length % recordBytes) length)
  else write .empty ((records (length / recordBytes) bytes).map cellOf)

end HintFuzz.Dump
