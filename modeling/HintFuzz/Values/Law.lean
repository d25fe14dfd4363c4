import HintFuzz.Random.Stream

/-!
# The law of the input values

Values are drawn in two steps: a roll picks one bucket of a weighted table, and
the value is uniform in the bucket's range.  The usual table is skewed: most
mass sits in the upper half of the 128-bit range, where overflow and carry
mistakes live, and the rest is split between tiny values and all values but 0.
-/

namespace HintFuzz.Values

/-- A row of a value table.  Both bounds are included. -/
structure Bucket where
  weight : Nat
  low : Nat
  high : Nat
deriving DecidableEq, Repr

/-- 70% of `[2 ^ 127, 2 ^ 128)`, 15% of `[0, 10)` and 15% of `[1, 2 ^ 128)`. -/
def usualTable : List Bucket :=
  [⟨70, 1 <<< 127, 1 <<< 128 - 1⟩, ⟨15, 0, 9⟩, ⟨15, 1, 1 <<< 128 - 1⟩]

/-- The sum of the weights of a table. -/
def totalWeight (table : List Bucket) : Nat :=
  (table.map Bucket.weight).foldr (· + ·) 0

/-- The index and the row of the bucket that owns `roll`: rolls belong to the
buckets in table order, as many to each as its weight says. -/
def bucketOf? : List Bucket → (roll : Nat) → Option (Nat × Bucket)
  | [], _ => none
  | bucket :: rest, roll =>
    if roll < bucket.weight then some (0, bucket)
    else (bucketOf? rest (roll - bucket.weight)).map fun (index, found) => (index + 1, found)

/-- What keeps a table from being drawn from. -/
inductive TableFault
  /-- The weights of the table add up to nothing. -/
  | noWeight
  /-- The bucket that was rolled has its low bound above its high bound. -/
  | emptyRange
deriving DecidableEq, Repr

/-- The wording of a fault. -/
def TableFault.message : TableFault → String
  | noWeight => "value table needs a positive weight"
  | emptyRange => "cannot sample empty range"

/-- One draw: the index of the bucket that was rolled and a value of its range. -/
structure Drawn where
  bucket : Nat
  value : Nat
deriving DecidableEq, Repr

/-- The index and the row of the last bucket, which a roll that no bucket owns would go to. -/
def lastBucket? (table : List Bucket) : Option (Nat × Bucket) :=
  table.getLast?.map fun bucket => (table.length - 1, bucket)

/-- Draws from a table with the numbers of a random source: 32 bits for the roll and 128 bits
for the value. -/
def drawFrom {σ : Type} (source : Random.Source σ) (table : List Bucket) (state : σ) :
    Except TableFault (Drawn × σ) :=
  if totalWeight table = 0 then .error .noWeight
  else
    let (roll, state) := source 1 0 (totalWeight table - 1) state
    match (bucketOf? table roll).or (lastBucket? table) with
    | none => .error .noWeight
    | some (index, bucket) =>
      if bucket.high < bucket.low then .error .emptyRange
      else
        let (value, state) := source 4 bucket.low bucket.high state
        .ok (⟨index, value⟩, state)

/-- Draws from a table with the numbers of a stream. -/
def draw (table : List Bucket) (stream : Random.Stream) :
    Except TableFault (Drawn × Random.Stream) :=
  drawFrom Random.uniform table stream

/-- Draws `count` times in a row. -/
def drawMany (table : List Bucket) : (count : Nat) → Random.Stream → Except TableFault (List Drawn)
  | 0, _ => if totalWeight table = 0 then .error .noWeight else .ok []
  | count + 1, stream => do
    let (drawn, stream) ← draw table stream
    return drawn :: (← drawMany table count stream)

end HintFuzz.Values
