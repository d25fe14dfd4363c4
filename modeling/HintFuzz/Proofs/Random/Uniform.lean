import HintFuzz.Random.Stream

/-!
# Where uniform numbers lie

A number drawn from a range lies in it, whatever the stream holds and however often the draw is
rejected (`uniform_mem`).  A range that takes more numbers than the words of a draw can tell apart
must start at 0.
-/

namespace HintFuzz.Random

private theorem one_shiftLeft_pos (bits : Nat) : 0 < 1 <<< bits := by
  rw [Nat.one_shiftLeft]
  exact Nat.two_pow_pos bits

/-- A number of some words has no more bits than these. -/
theorem take_lt (words : Nat) (stream : Stream) : (stream.take words).1 < 1 <<< (32 * words) := by
  induction words generalizing stream with
  | zero => exact Nat.one_pos
  | succ words ih =>
      have low := UInt32.toNat_lt stream.next.1
      have high := ih stream.next.2
      have bits : 32 * (words + 1) = 32 * words + 32 := rfl
      change stream.next.1.toNat + (stream.next.2.take words).1 <<< 32 < _
      rw [bits, Nat.shiftLeft_add, Nat.shiftLeft_eq, Nat.shiftLeft_eq]
      omega

/-- Draws give offsets into the range, also when all of them are rejected. -/
theorem accepted_lt {span : Nat} (positive : 0 < span) (words zone tries : Nat) (stream : Stream) :
    (accepted words span zone tries stream).1 < span := by
  induction tries generalizing stream with
  | zero => exact positive
  | succ tries ih =>
      rw [accepted]
      have drawn := take_lt words stream
      rw [Nat.one_shiftLeft] at drawn
      simp only
      split
      · rw [Nat.shiftRight_eq_div_pow, Nat.div_lt_iff_lt_mul (Nat.two_pow_pos _),
          Nat.mul_comm span]
        exact Nat.mul_lt_mul_of_pos_right drawn positive
      · exact ih _

/-- **A number drawn from a range lies in it.** -/
theorem uniform_mem {words low high : Nat} (nonempty : low ≤ high)
    (fits : low = 0 ∨ high < 1 <<< (32 * words)) (stream : Stream) :
    low ≤ (uniform words low high stream).1 ∧ (uniform words low high stream).1 ≤ high := by
  have positive := one_shiftLeft_pos (32 * words)
  unfold uniform
  simp only
  split
  · next whole =>
      -- Only a range that starts at 0 can hold all numbers of that many bits.
      have drawn := take_lt words stream
      have large : 1 <<< (32 * words) ≤ high + 1 - low :=
        Nat.le_of_dvd (by omega) (Nat.dvd_of_mod_eq_zero whole)
      omega
  · next part =>
      have inside (zone : Nat) :
          (accepted words ((high + 1 - low) % 1 <<< (32 * words)) zone attempts stream).1 ≤
            high - low := by
        have offset := accepted_lt (Nat.pos_of_ne_zero part) words zone attempts stream
        have size := Nat.mod_le (high + 1 - low) (1 <<< (32 * words))
        omega
      refine ⟨Nat.le_add_right _ _, ?_⟩
      exact Nat.le_trans (Nat.add_le_add_left (inside _) low)
        (Nat.le_of_eq (Nat.add_sub_cancel' nonempty))

end HintFuzz.Random
