import HintFuzz.Bytes.LittleEndian

/-!
# The ChaCha block function with eight rounds

A block of sixteen words is scrambled from a constant row, a key of two rows
and a counter row.  Rows are added, xored and turned word by word; a double
round scrambles the columns and then the diagonals.
-/

namespace HintFuzz.ChaCha

/-- Four words of a block. -/
structure Row where
  w : UInt32
  x : UInt32
  y : UInt32
  z : UInt32

namespace Row

/-- Combines two rows word by word. -/
def zipWith (f : UInt32 → UInt32 → UInt32) (left right : Row) : Row :=
  ⟨f left.w right.w, f left.x right.x, f left.y right.y, f left.z right.z⟩

/-- Turns every word left by `n` bits, for `n` between 1 and 31. -/
def rotateWords (n : UInt32) (row : Row) : Row :=
  let turn (word : UInt32) := (word <<< n) ||| (word >>> (32 - n))
  ⟨turn row.w, turn row.x, turn row.y, turn row.z⟩

/-- The row shifted left by one place, its first word moved to the end. -/
def shift (row : Row) : Row :=
  ⟨row.x, row.y, row.z, row.w⟩

/-- The words in order. -/
def toList (row : Row) : List UInt32 :=
  [row.w, row.x, row.y, row.z]

end Row

/-- The rows of a block. -/
structure Block where
  a : Row
  b : Row
  c : Row
  d : Row

/-- A quarter round on each column. -/
def columnRound (block : Block) : Block :=
  let a := block.a.zipWith (· + ·) block.b
  let d := (block.d.zipWith (· ^^^ ·) a).rotateWords 16
  let c := block.c.zipWith (· + ·) d
  let b := (block.b.zipWith (· ^^^ ·) c).rotateWords 12
  let a := a.zipWith (· + ·) b
  let d := (d.zipWith (· ^^^ ·) a).rotateWords 8
  let c := c.zipWith (· + ·) d
  let b := (b.zipWith (· ^^^ ·) c).rotateWords 7
  ⟨a, b, c, d⟩

/-- A round on the columns and a round on the diagonals. -/
def doubleRound (block : Block) : Block :=
  let ⟨a, b, c, d⟩ := columnRound block
  let ⟨a, b, c, d⟩ := columnRound ⟨a, b.shift, c.shift.shift, d.shift.shift.shift⟩
  ⟨a, b.shift.shift.shift, c.shift.shift, d.shift⟩

/-- A key: the two middle rows of the blocks made with it. -/
structure Key where
  low : Row
  high : Row

/-- The constant row: the letters `expand 32-byte k`. -/
def constants : Row :=
  ⟨0x61707865, 0x3320646e, 0x79622d32, 0x6b206574⟩

/-- The sixteen words of the block with a given counter. -/
def block (key : Key) (counter : UInt64) : List UInt32 :=
  let start : Block :=
    ⟨constants, key.low, key.high, ⟨counter.toUInt32, (counter >>> 32).toUInt32, 0, 0⟩⟩
  let mixed := doubleRound (doubleRound (doubleRound (doubleRound start)))
  (mixed.a.zipWith (· + ·) start.a).toList ++ (mixed.b.zipWith (· + ·) start.b).toList ++
    (mixed.c.zipWith (· + ·) start.c).toList ++ (mixed.d.zipWith (· + ·) start.d).toList

end HintFuzz.ChaCha
