import HintFuzz.Order.Ascending

/-!
# Ascending lists as sets

Sorting a list in a strict total order keeps its elements and lists each of them
once, in order (`mem_ascending`, `pairwise_ascending`).  What is found first in an ascending list
is the least of all that could be found (`find?_eq_some_iff_of_pairwise`).
-/

namespace HintFuzz

variable {α : Type} [LT α] [DecidableLT α]

/-- Putting an element in its place adds that element and no other. -/
theorem mem_insertAscending [Std.Trichotomous (α := α) (· < ·)] {x y : α} {ys : List α} :
    y ∈ insertAscending x ys ↔ y = x ∨ y ∈ ys := by
  induction ys with
  | nil => simp only [insertAscending, List.mem_singleton, List.not_mem_nil, or_false]
  | cons head rest ih =>
      simp only [insertAscending]
      split
      · simp only [List.mem_cons]
      · split
        · simp only [List.mem_cons, ih, or_left_comm]
        · next notBefore notAfter =>
            have same : x = head := Std.Trichotomous.trichotomous x head notBefore notAfter
            simp only [same, List.mem_cons, or_self_left]

/-- Sorting keeps the elements of a list. -/
@[simp]
theorem mem_ascending [Std.Trichotomous (α := α) (· < ·)] {y : α} {xs : List α} :
    y ∈ ascending xs ↔ y ∈ xs := by
  unfold ascending
  induction xs with
  | nil => exact Iff.rfl
  | cons x rest ih => rw [List.foldr_cons, mem_insertAscending, ih, List.mem_cons]

variable [Trans (α := α) (· < ·) (· < ·) (· < ·)] [Std.Trichotomous (α := α) (· < ·)]

/-- Putting an element in its place keeps a list ascending. -/
theorem pairwise_insertAscending {x : α} {ys : List α} (sorted : ys.Pairwise (· < ·)) :
    (insertAscending x ys).Pairwise (· < ·) := by
  induction ys with
  | nil => exact List.pairwise_singleton _ _
  | cons head rest ih =>
      have ⟨first, later⟩ := List.pairwise_cons.mp sorted
      simp only [insertAscending]
      split
      · next before =>
          refine List.pairwise_cons.mpr ⟨?_, sorted⟩
          intro other member
          rcases List.mem_cons.mp member with rfl | old
          · exact before
          · exact Trans.trans before (first other old)
      · split
        · next after =>
            refine List.pairwise_cons.mpr ⟨?_, ih later⟩
            intro other member
            rcases mem_insertAscending.mp member with rfl | old
            · exact after
            · exact first other old
        · exact sorted

/-- A sorted list is strictly ascending. -/
theorem pairwise_ascending (xs : List α) : (ascending xs).Pairwise (· < ·) := by
  unfold ascending
  induction xs with
  | nil => exact .nil
  | cons x rest ih => exact pairwise_insertAscending ih

/-- A sorted list has no repetitions. -/
theorem nodup_ascending [Std.Irrefl (α := α) (· < ·)] (xs : List α) : (ascending xs).Nodup := by
  refine (pairwise_ascending xs).imp ?_
  intro left right before same
  subst same
  exact Std.Irrefl.irrefl left before

omit [DecidableLT α] [Std.Trichotomous (α := α) (· < ·)] in
/-- The first hit in an ascending list is the least one. -/
theorem find?_eq_some_iff_of_pairwise [Std.Irrefl (α := α) (· < ·)] {x : α} {xs : List α}
    {p : α → Bool} (sorted : xs.Pairwise (· < ·)) :
    xs.find? p = some x ↔ x ∈ xs ∧ p x = true ∧ ∀ y ∈ xs, p y = true → y = x ∨ x < y := by
  have least {z : α} (found : xs.find? p = some z) : ∀ y ∈ xs, p y = true → y = z ∨ z < y := by
    intro y member hit
    obtain ⟨-, before, after, rfl, missed⟩ := List.find?_eq_some_iff_append.mp found
    rcases List.mem_append.mp member with earlier | later
    · have miss := missed y earlier
      simp [hit] at miss
    · rcases List.mem_cons.mp later with same | behind
      · exact .inl same
      · exact .inr ((List.pairwise_cons.mp (List.pairwise_append.mp sorted).2.1).1 y behind)
  constructor
  · intro found
    exact ⟨List.mem_of_find?_eq_some found, List.find?_some found, least found⟩
  · rintro ⟨member, hit, smallest⟩
    obtain ⟨z, found⟩ := Option.isSome_iff_exists.mp (List.find?_isSome.mpr ⟨x, member, hit⟩)
    rcases smallest z (List.mem_of_find?_eq_some found) (List.find?_some found) with rfl | below
    · exact found
    · rcases least found x member hit with rfl | above
      · exact found
      · exact absurd (Trans.trans below above) (Std.Irrefl.irrefl x)

end HintFuzz
