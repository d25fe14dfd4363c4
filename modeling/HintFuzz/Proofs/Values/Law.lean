import HintFuzz.Proofs.Random.Uniform
import HintFuzz.Values.Assignment
import Mathlib.Order.Interval.Finset.Nat

/-!
# Rolls and draws

The rolls of a table are shared out in intervals, one for each bucket, as long as its weight
(`Values.bucketOf?_eq_some_iff`, `Values.card_rolls`).  A source whose numbers lie in the ranges
that they are drawn from rolls a number that some bucket owns, so that the last bucket never has to
stand in for it, and gives a value of that bucket (`Values.drawFrom_of_inRange`).
-/

namespace HintFuzz

/-- The numbers of a source lie in the ranges that they are drawn from, where these have a number
and the bounds fit the words that are asked for. -/
def Random.Source.InRange {σ : Type} (source : Random.Source σ) : Prop :=
  ∀ words low high state, low ≤ high → high < 2 ^ (32 * words) →
    low ≤ (source words low high state).1 ∧ (source words low high state).1 ≤ high

private theorem Random.uniform_inRange : Random.Source.InRange Random.uniform := by
  intro words low high stream nonempty fits
  rw [← Nat.one_shiftLeft] at fits
  exact Random.uniform_mem nonempty (.inr fits) stream

namespace Values

variable {table : List Bucket} {bucket : Bucket} {roll index : Nat}

/-! ### Weights -/

private theorem totalWeight_cons (bucket : Bucket) (rest : List Bucket) :
    totalWeight (bucket :: rest) = bucket.weight + totalWeight rest :=
  rfl

private theorem totalWeight_append (left right : List Bucket) :
    totalWeight (left ++ right) = totalWeight left + totalWeight right := by
  induction left with
  | nil => exact (Nat.zero_add _).symm
  | cons bucket rest ih =>
      rw [List.cons_append, totalWeight_cons, totalWeight_cons, ih, Nat.add_assoc]

/-- The weight before a row and its own weight are the weight up to it. -/
theorem totalWeight_take_succ (row : table[index]? = some bucket) :
    totalWeight (table.take (index + 1)) = totalWeight (table.take index) + bucket.weight := by
  rw [List.take_add_one, row, totalWeight_append]
  rfl

private theorem totalWeight_take_le (table : List Bucket) (index : Nat) :
    totalWeight (table.take index) ≤ totalWeight table := by
  calc totalWeight (table.take index)
      ≤ totalWeight (table.take index) + totalWeight (table.drop index) := Nat.le_add_right _ _
    _ = totalWeight table := by rw [← totalWeight_append, List.take_append_drop]

/-- More rows have no less weight. -/
theorem totalWeight_take_mono (table : List Bucket) {fewer more : Nat} (le : fewer ≤ more) :
    totalWeight (table.take fewer) ≤ totalWeight (table.take more) := by
  have front : table.take fewer = (table.take more).take fewer := by
    rw [List.take_take, Nat.min_eq_left le]
  rw [front]
  exact totalWeight_take_le _ fewer

/-! ### Rolls -/

/-- A roll that is less than the weight of the table belongs to a bucket, and no other one does. -/
theorem bucketOf?_eq_none_iff : bucketOf? table roll = none ↔ totalWeight table ≤ roll := by
  induction table generalizing roll with
  | nil => exact iff_of_true rfl (Nat.zero_le roll)
  | cons head rest ih =>
      rw [bucketOf?, totalWeight_cons]
      split
      · next own => exact iff_of_false (Option.some_ne_none _) (by omega)
      · next beyond =>
          rw [Option.map_eq_none_iff, ih]
          omega

/-- A bucket owns the rolls from the weight before it up to that weight and its own. -/
theorem bucketOf?_eq_some_iff :
    bucketOf? table roll = some (index, bucket) ↔
      table[index]? = some bucket ∧ totalWeight (table.take index) ≤ roll ∧
        roll < totalWeight (table.take (index + 1)) := by
  induction table generalizing roll index with
  | nil =>
      exact iff_of_false (Option.some_ne_none _).symm fun owns =>
        (Option.some_ne_none bucket).symm owns.1
  | cons head rest ih =>
      rw [bucketOf?, List.take_succ_cons, totalWeight_cons]
      split
      · next own =>
          cases index with
          | zero =>
              simp only [Option.some.injEq, Prod.mk.injEq, true_and, List.getElem?_cons_zero]
              exact ⟨fun same => ⟨same, Nat.zero_le roll, Nat.lt_add_right _ own⟩, And.left⟩
          | succ index =>
              have other : some (0, head) ≠ some (index + 1, bucket) := by
                rintro ⟨⟩
              refine iff_of_false other fun owns => ?_
              have above := owns.2.1
              rw [List.take_succ_cons, totalWeight_cons] at above
              omega
      · next beyond =>
          cases index with
          | zero =>
              exact iff_of_false (by simp) fun owns => beyond owns.2.2
          | succ index =>
              simp only [Option.map_eq_some_iff, Prod.exists, Prod.mk.injEq, Nat.add_right_cancel_iff,
                exists_eq_right_right, exists_eq_right]
              rw [ih, List.getElem?_cons_succ, List.take_succ_cons, totalWeight_cons]
              refine and_congr_right fun _ => ?_
              omega

/-- Weights before different buckets are on different sides of a roll that one of them owns. -/
theorem index_unique {other : Nat} (above : totalWeight (table.take index) ≤ roll)
    (below : roll < totalWeight (table.take (index + 1)))
    (above' : totalWeight (table.take other) ≤ roll)
    (below' : roll < totalWeight (table.take (other + 1))) : other = index := by
  rcases Nat.lt_trichotomy other index with before | same | after
  · have between : totalWeight (table.take (other + 1)) ≤ totalWeight (table.take index) :=
      totalWeight_take_mono table before
    omega
  · exact same
  · have between : totalWeight (table.take (index + 1)) ≤ totalWeight (table.take other) :=
      totalWeight_take_mono table after
    omega

/-- A roll below the weight of a table has an owner. -/
theorem exists_bucketOf? (rolled : roll < totalWeight table) :
    ∃ index bucket, bucketOf? table roll = some (index, bucket) := by
  cases found : bucketOf? table roll with
  | none => exact absurd (bucketOf?_eq_none_iff.mp found) (Nat.not_le.mpr rolled)
  | some owner => exact ⟨owner.1, owner.2, rfl⟩

/-- The owner of a roll has weight. -/
theorem weight_pos_of_bucketOf? (found : bucketOf? table roll = some (index, bucket)) :
    0 < bucket.weight := by
  obtain ⟨row, above, below⟩ := bucketOf?_eq_some_iff.mp found
  rw [totalWeight_take_succ row] at below
  omega

/-- As many rolls belong to a bucket as its weight says. -/
theorem card_rolls (row : table[index]? = some bucket) :
    ((Finset.range (totalWeight table)).filter fun roll =>
      bucketOf? table roll = some (index, bucket)).card = bucket.weight := by
  have weight := totalWeight_take_succ row
  have whole := totalWeight_take_le table (index + 1)
  have interval : ((Finset.range (totalWeight table)).filter fun roll =>
        bucketOf? table roll = some (index, bucket)) =
      Finset.Ico (totalWeight (table.take index)) (totalWeight (table.take (index + 1))) := by
    ext roll
    rw [Finset.mem_filter, Finset.mem_range, Finset.mem_Ico, bucketOf?_eq_some_iff]
    constructor
    · exact fun member => member.2.2
    · exact fun within => ⟨Nat.lt_of_lt_of_le within.2 whole, row, within⟩
  rw [interval, Nat.card_Ico, weight, Nat.add_sub_cancel_left]

/-! ### Draws -/

variable {σ : Type} {source : Random.Source σ}

/-- A table with weight whose buckets with weight have numbers to draw, all of which fit. -/
structure Drawable (table : List Bucket) : Prop where
  positive : 0 < totalWeight table
  weight_lt : totalWeight table < 2 ^ 32
  low_le_high : ∀ bucket ∈ table, 0 < bucket.weight → bucket.low ≤ bucket.high
  high_lt : ∀ bucket ∈ table, bucket.high < 2 ^ 128

/-- A draw gives a value of the bucket that owns the roll. -/
theorem drawFrom_of_inRange (inRange : source.InRange) (drawable : Drawable table) (state : σ) :
    ∃ index bucket value rest,
      bucketOf? table (source 1 0 (totalWeight table - 1) state).1 = some (index, bucket) ∧
        drawFrom source table state = .ok (⟨index, value⟩, rest) ∧
        bucket.low ≤ value ∧ value ≤ bucket.high := by
  have positive := drawable.positive
  have weight_lt := drawable.weight_lt
  have within := inRange 1 0 (totalWeight table - 1) state (Nat.zero_le _) (by omega)
  rcases rolled : source 1 0 (totalWeight table - 1) state with ⟨roll, after⟩
  rw [rolled] at within
  have below : roll < totalWeight table := Nat.lt_of_le_pred positive within.2
  obtain ⟨index, bucket, found⟩ := exists_bucketOf? below
  have member : bucket ∈ table := List.mem_of_getElem? (bucketOf?_eq_some_iff.mp found).1
  have nonempty := drawable.low_le_high bucket member (weight_pos_of_bucketOf? found)
  have drawn := inRange 4 bucket.low bucket.high after nonempty (drawable.high_lt bucket member)
  rcases valued : source 4 bucket.low bucket.high after with ⟨value, rest⟩
  rw [valued] at drawn
  refine ⟨index, bucket, value, rest, found, ?_, drawn⟩
  simp only [drawFrom, if_neg (Nat.ne_of_gt positive), rolled, found, Option.some_or,
    if_neg (Nat.not_lt.mpr nonempty), valued]

/-- How the rolls of a table are shared out among its buckets, and what is drawn from them. -/
structure PartitionRule (table : List Bucket) : Prop where
  /-- A roll belongs to no bucket exactly if it is not below the whole weight. -/
  unowned_iff : ∀ roll, bucketOf? table roll = none ↔ totalWeight table ≤ roll
  /-- A bucket owns the rolls from the weight before it up to that weight and its own. -/
  owned_iff : ∀ roll index bucket, bucketOf? table roll = some (index, bucket) ↔
    table[index]? = some bucket ∧ totalWeight (table.take index) ≤ roll ∧
      roll < totalWeight (table.take (index + 1))
  /-- Every roll below the whole weight lies in the interval of one index. -/
  unique : ∀ roll < totalWeight table, ∃! index,
    totalWeight (table.take index) ≤ roll ∧ roll < totalWeight (table.take (index + 1))
  /-- A bucket owns as many rolls as its weight says. -/
  count : ∀ index bucket, table[index]? = some bucket →
    ((Finset.range (totalWeight table)).filter fun roll =>
      bucketOf? table roll = some (index, bucket)).card = bucket.weight
  /-- A bucket without weight owns none. -/
  weighted : ∀ roll index bucket, bucketOf? table roll = some (index, bucket) → 0 < bucket.weight
  /-- A draw is made from the bucket that owns the roll, and gives one of its values. -/
  draws : Drawable table → ∀ (σ : Type) (source : Random.Source σ), source.InRange → ∀ state,
    ∃ index bucket value rest,
      bucketOf? table (source 1 0 (totalWeight table - 1) state).1 = some (index, bucket) ∧
        0 < bucket.weight ∧ drawFrom source table state = .ok (⟨index, value⟩, rest) ∧
        bucket.low ≤ value ∧ value ≤ bucket.high

/-- **A table is a partition of its rolls.** -/
theorem partitionRule (table : List Bucket) : PartitionRule table where
  unowned_iff _ := bucketOf?_eq_none_iff
  owned_iff _ _ _ := bucketOf?_eq_some_iff
  unique roll rolled := by
    obtain ⟨index, bucket, found⟩ := exists_bucketOf? rolled
    obtain ⟨-, above, below⟩ := bucketOf?_eq_some_iff.mp found
    exact ⟨index, ⟨above, below⟩, fun _ within => index_unique above below within.1 within.2⟩
  count _ _ := card_rolls
  weighted _ _ _ := weight_pos_of_bucketOf?
  draws drawable _ _ inRange state := by
    obtain ⟨index, bucket, value, rest, found, drawn, within⟩ :=
      drawFrom_of_inRange inRange drawable state
    exact ⟨index, bucket, value, rest, found, weight_pos_of_bucketOf? found, drawn, within⟩

/-- A table with a bucket between two that have neither weight nor numbers. -/
def lined : List Bucket :=
  [⟨0, 9, 3⟩, ⟨2, 5, 7⟩, ⟨0, 9, 3⟩]

/-- Both rolls belong to the bucket with weight, and a draw takes one of its numbers. -/
theorem lined_partitionRule :
    (∃! index, totalWeight (lined.take index) ≤ 1 ∧ 1 < totalWeight (lined.take (index + 1))) ∧
      ((Finset.range (totalWeight lined)).filter fun roll =>
        bucketOf? lined roll = some (1, ⟨2, 5, 7⟩)).card = 2 ∧
      ∃ index bucket value rest,
        bucketOf? lined (Random.uniform 1 0 1 (.ofSeed 6)).1 = some (index, bucket) ∧
          0 < bucket.weight ∧
          drawFrom Random.uniform lined (.ofSeed 6) = .ok (⟨index, value⟩, rest) ∧
          bucket.low ≤ value ∧ value ≤ bucket.high := by
  have rule := partitionRule lined
  have drawable : Drawable lined := by
    constructor
    · decide
    · decide
    · decide
    · decide
  refine ⟨rule.unique 1 (by decide), rule.count 1 ⟨2, 5, 7⟩ rfl, ?_⟩
  exact rule.draws drawable _ Random.uniform Random.uniform_inRange (.ofSeed 6)

/-! ### The usual table -/

private theorem drawable_usualTable : Drawable usualTable where
  positive := by decide
  weight_lt := by decide
  low_le_high := by decide
  high_lt := by decide

/-- Every draw from the usual table gives a number of 128 bits. -/
theorem drawUsual_lt (stream : Random.Stream) : (drawUsual stream).1 < 2 ^ 128 := by
  obtain ⟨index, bucket, value, rest, found, drawn, -, le⟩ :=
    drawFrom_of_inRange Random.uniform_inRange drawable_usualTable stream
  have member : bucket ∈ usualTable := List.mem_of_getElem? (bucketOf?_eq_some_iff.mp found).1
  have given : draw usualTable stream = .ok (⟨index, value⟩, rest) := drawn
  rw [drawUsual, given]
  exact Nat.lt_of_le_of_lt le (drawable_usualTable.high_lt bucket member)

/-- All values that placeholders are given have 128 bits. -/
theorem value_lt_of_mem_assign {ids : List PlaceholderId} {stream : Random.Stream}
    {assigned : Assigned} (member : assigned ∈ assign ids stream) : assigned.value < 2 ^ 128 := by
  induction ids generalizing stream with
  | nil => cases member
  | cons id rest ih =>
      rw [assign] at member
      rcases List.mem_cons.mp member with rfl | later
      · exact drawUsual_lt stream
      · exact ih later

end Values

end HintFuzz
