import HintFuzz.Proofs.Trial.Plan
import HintFuzz.Proofs.Values.Assignment
import HintFuzz.Proofs.Wrapper.Synthesis

/-!
# The values of plans

What is drawn for the placeholders of a plan depends on the seed and on the number of hints
to pick from, and on nothing else: neither on what the hints say nor on which of them is
run.  A plan with fewer placeholders takes the first of the values that one with more
placeholders takes (`Catalog.plan_values_take`).
-/

namespace HintFuzz

/-- Fewer placeholders take the first of the same values: how many words of the stream a
value takes depends on the stream alone. -/
theorem Values.assign_take (ids : List PlaceholderId) (count : Nat) (stream : Random.Stream) :
    assign (ids.take count) stream = (assign ids stream).take count := by
  induction ids generalizing count stream with
  | nil => rw [List.take_nil, assign, List.take_nil]
  | cons id rest ih =>
      cases count with
      | zero => rfl
      | succ count =>
          rw [List.take_succ_cons, assign, assign, List.take_succ_cons]
          exact congrArg (_ :: ·) (ih count (drawUsual stream).2)

namespace Catalog

variable {left right catalog : Catalog} {seed : UInt64} {hint? leftHint? rightHint? : Option HintId}
  {plan leftPlan rightPlan : Plan}

/-- Picking a hint takes as much of the stream from every catalog of the same size. -/
theorem select_stream_eq (sameSize : left.size = right.size) (stream : Random.Stream) :
    (left.select stream).2 = (right.select stream).2 := by
  unfold select
  rw [sameSize]
  split
  · rfl
  · rfl

/-- A plan gives values to the placeholders of its wrapper, in order, drawn from what picking
a hint has left of the stream. -/
theorem values_of_plan (planned : catalog.plan seed hint? = .ok plan) :
    plan.values = Values.assign (List.range plan.wrapper.placeholders.length)
      (catalog.select (.ofSeed seed)).2 := by
  obtain ⟨id, hint, -, -, prepared, values⟩ := plan_eq_ok_iff.mp planned
  obtain ⟨signature, -, built⟩ := Hint.prepare_ok prepared
  rw [values, (Hint.numbered_of_synthesize built).ids]

/-- **Values do not depend on the hint.** Whichever hints of two catalogs of the same size a
seed is planned with, its values are given to the placeholders 0, 1, 2 and so on, and the
plan with fewer placeholders has the first values of the other one. -/
theorem plan_values_take (sameSize : left.size = right.size)
    (leftPlanned : left.plan seed leftHint? = .ok leftPlan)
    (rightPlanned : right.plan seed rightHint? = .ok rightPlan)
    (fewer : leftPlan.wrapper.placeholders.length ≤ rightPlan.wrapper.placeholders.length) :
    leftPlan.values.map Assigned.placeholder = List.range leftPlan.wrapper.placeholders.length ∧
      rightPlan.values.map Assigned.placeholder =
        List.range rightPlan.wrapper.placeholders.length ∧
      leftPlan.values = rightPlan.values.take leftPlan.wrapper.placeholders.length := by
  have leftValues := values_of_plan leftPlanned
  have rightValues := values_of_plan rightPlanned
  have first : List.range leftPlan.wrapper.placeholders.length =
      (List.range rightPlan.wrapper.placeholders.length).take
        leftPlan.wrapper.placeholders.length := by
    rw [List.take_range, Nat.min_eq_left fewer]
  refine ⟨?_, ?_, ?_⟩
  · rw [leftValues, Values.placeholders_assign]
  · rw [rightValues, Values.placeholders_assign]
  · rw [leftValues, rightValues, select_stream_eq sameSize, first, Values.assign_take]

/-- Two hints, of which the second reads one felt. -/
def short : Catalog := .ofHints [["ids.p.x = 1"], ["assert ids.a == 1"]]

/-- Two other hints, of which the first reads two felts. -/
def long : Catalog := .ofHints [["ids.r.d0 = ids.b.low + ids.b.high"], ["x = pack(ids.k, P)"]]

/-- The hint that the seed picks from the one catalog, and another hint of the other one. -/
theorem short_values_take :
    ∃ leftPlan rightPlan, short.size = long.size ∧ short.plan 6 none = .ok leftPlan ∧
      long.plan 6 (some 0) = .ok rightPlan ∧ leftPlan.wrapper.hint = 1 ∧
      leftPlan.values.length = 1 ∧ rightPlan.values.length = 2 ∧
      leftPlan.values = rightPlan.values.take 1 := by
  have leftCounts : (short.plan 6 none).map
      (fun plan => (plan.wrapper.hint, plan.wrapper.placeholders.length, plan.values.length)) =
        .ok (1, 1, 1) := by
    decide +kernel
  have rightCounts : (long.plan 6 (some 0)).map
      (fun plan => (plan.wrapper.placeholders.length, plan.values.length)) = .ok (2, 2) := by
    decide +kernel
  match leftPlanned : short.plan 6 none, rightPlanned : long.plan 6 (some 0) with
  | .error reason, _ =>
      rw [leftPlanned] at leftCounts
      cases leftCounts
  | _, .error reason =>
      rw [rightPlanned] at rightCounts
      cases rightCounts
  | .ok leftPlan, .ok rightPlan =>
      rw [leftPlanned] at leftCounts
      rw [rightPlanned] at rightCounts
      obtain ⟨hint, leftSlots, leftValues⟩ : leftPlan.wrapper.hint = 1 ∧
          leftPlan.wrapper.placeholders.length = 1 ∧ leftPlan.values.length = 1 := by
        simpa [Except.map] using leftCounts
      obtain ⟨rightSlots, rightValues⟩ : rightPlan.wrapper.placeholders.length = 2 ∧
          rightPlan.values.length = 2 := by
        simpa [Except.map] using rightCounts
      have fewer : leftPlan.wrapper.placeholders.length ≤ rightPlan.wrapper.placeholders.length := by
        omega
      have sameSize : short.size = long.size := rfl
      have same := plan_values_take sameSize leftPlanned rightPlanned fewer
      refine ⟨leftPlan, rightPlan, sameSize, rfl, rfl, hint, leftValues, rightValues, ?_⟩
      rw [same.2.2, leftSlots]

end Catalog

end HintFuzz
