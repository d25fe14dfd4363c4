import HintFuzz.Campaign.Summary
import Mathlib.Algebra.BigOperators.Group.List.Basic

/-!
# Summaries as sums

Summaries are added up by `merge`, label by label, so they form a commutative
monoid.  Recording outcomes adds one summand each (`Summary.foldl_record`), and
outcomes that are recorded in chunks which are merged in any grouping add up to
the same sum (`Grouping.summary_eq_sum`).
-/

namespace HintFuzz

/-! ### Counts under labels -/

instance : Zero InconclusiveCounts := ⟨.zero⟩

instance : Add InconclusiveCounts := ⟨.add⟩

instance : AddCommMonoid InconclusiveCounts where
  nsmul := nsmulRec
  zero_add counts := by
    change InconclusiveCounts.add .zero counts = counts
    simp only [InconclusiveCounts.add, InconclusiveCounts.zero, Nat.zero_add]
  add_zero counts := by
    change InconclusiveCounts.add counts .zero = counts
    simp only [InconclusiveCounts.add, InconclusiveCounts.zero, Nat.add_zero]
  add_assoc first second third := by
    change InconclusiveCounts.add (.add first second) third =
      InconclusiveCounts.add first (.add second third)
    simp only [InconclusiveCounts.add, Nat.add_assoc]
  add_comm left right := by
    change InconclusiveCounts.add left right = InconclusiveCounts.add right left
    simp only [InconclusiveCounts.add, Nat.add_comm]

instance : Zero SkipCounts := ⟨.zero⟩

instance : Add SkipCounts := ⟨.add⟩

instance : AddCommMonoid SkipCounts where
  nsmul := nsmulRec
  zero_add counts := by
    change SkipCounts.add .zero counts = counts
    simp only [SkipCounts.add, SkipCounts.zero, Nat.zero_add]
  add_zero counts := by
    change SkipCounts.add counts .zero = counts
    simp only [SkipCounts.add, SkipCounts.zero, Nat.add_zero]
  add_assoc first second third := by
    change SkipCounts.add (.add first second) third = SkipCounts.add first (.add second third)
    simp only [SkipCounts.add, Nat.add_assoc]
  add_comm left right := by
    change SkipCounts.add left right = SkipCounts.add right left
    simp only [SkipCounts.add, Nat.add_comm]

/-! ### Summaries -/

namespace Summary

/-- Summaries are merged field by field. -/
theorem merge_eq (left right : Summary) :
    left.merge right =
      ⟨left.iterations + right.iterations, left.passed + right.passed,
        left.findings + right.findings, left.cancelled + right.cancelled,
        left.inconclusive + right.inconclusive, left.skipped + right.skipped⟩ :=
  rfl

private theorem empty_eq : empty = ⟨0, 0, 0, 0, 0, 0⟩ :=
  rfl

instance : Zero Summary := ⟨.empty⟩

instance : Add Summary := ⟨.merge⟩

instance : AddCommMonoid Summary where
  nsmul := nsmulRec
  zero_add summary := by
    change merge empty summary = summary
    simp only [merge_eq, empty_eq, zero_add]
  add_zero summary := by
    change merge summary empty = summary
    simp only [merge_eq, empty_eq, add_zero]
  add_assoc first second third := by
    change merge (merge first second) third = merge first (merge second third)
    simp only [merge_eq, add_assoc]
  add_comm left right := by
    change merge left right = merge right left
    simp only [merge_eq, add_comm]

/-- The sum of the outcomes of several iterations. -/
def ofIterations (outcomes : List Iteration) : Summary :=
  (outcomes.map ofIteration).sum

/-- The summary of two runs of outcomes is that of the first merged with that of the second. -/
theorem ofIterations_append (first later : List Iteration) :
    ofIterations (first ++ later) = (ofIterations first).merge (ofIterations later) := by
  unfold ofIterations
  rw [List.map_append, List.sum_append]
  rfl

/-- The order of the outcomes does not count. -/
theorem ofIterations_perm {first second : List Iteration} (rearranged : first.Perm second) :
    ofIterations first = ofIterations second :=
  (rearranged.map ofIteration).sum_eq

/-- Recording outcomes one after another adds them to a summary. -/
theorem foldl_record (summary : Summary) (outcomes : List Iteration) :
    outcomes.foldl record summary = summary.merge (ofIterations outcomes) := by
  induction outcomes generalizing summary with
  | nil => exact (add_zero summary).symm
  | cons outcome rest ih =>
      have first : ofIterations (outcome :: rest) = (ofIteration outcome).merge (ofIterations rest) :=
        List.sum_cons
      rw [List.foldl_cons, ih, first]
      exact add_assoc summary (ofIteration outcome) (ofIterations rest)

end Summary

/-! ### Chunks and merges -/

/-- How outcomes are counted: chunk by chunk, each chunk from the empty summary on, and
the summaries of chunks merged two by two. -/
inductive Grouping
  | chunk (outcomes : List Iteration)
  | merge (left right : Grouping)

namespace Grouping

/-- The outcomes in all chunks. -/
def outcomes : Grouping → List Iteration
  | chunk outcomes => outcomes
  | merge left right => left.outcomes ++ right.outcomes

/-- The summary that the last merge gives. -/
def summary : Grouping → Summary
  | chunk outcomes => outcomes.foldl Summary.record .empty
  | merge left right => left.summary.merge right.summary

/-- However outcomes are grouped, their summary is their sum. -/
theorem summary_eq_sum (grouping : Grouping) :
    grouping.summary = Summary.ofIterations grouping.outcomes := by
  induction grouping with
  | chunk outcomes =>
      rw [summary, Summary.foldl_record]
      exact zero_add (Summary.ofIterations outcomes)
  | merge left right ihLeft ihRight =>
      rw [summary, ihLeft, ihRight, outcomes, Summary.ofIterations_append]

end Grouping

end HintFuzz
