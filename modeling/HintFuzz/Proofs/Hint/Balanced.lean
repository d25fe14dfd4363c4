import HintFuzz.Proofs.Hint.Analysis

/-!
# Hints of balanced lines

The analysis of a hint depends on the set of lines that it scans alone, not on their order nor on
how often each of them stands there (`Hint.analyze_congr`).  What ties a line to the ones before
it is the bracket depth that they leave open.  Where each line closes all of its brackets there
is no such tie, and hints with the same lines have the same analysis
(`Hint.analyze_eq_of_balanced`).
-/

namespace HintFuzz.Hint

/-- A line that closes as many brackets as it opens. -/
def Balanced (line : String) : Prop :=
  (Line.scan 0 line).closingDepth = 0

instance (line : String) : Decidable (Balanced line) :=
  inferInstanceAs (Decidable (_ = _))

/-- Behind balanced lines no bracket is open. -/
theorem scanned_of_balanced {lines : List String} (balanced : ∀ line ∈ lines, Balanced line) :
    scanned 0 lines = lines.map (Line.scan 0) := by
  induction lines with
  | nil => rfl
  | cons line later ih =>
      have closed : (Line.scan 0 line).closingDepth = 0 := balanced line List.mem_cons_self
      have behind := ih fun other member => balanced other (List.mem_cons_of_mem _ member)
      simp only [scanned, List.map_cons, closed, behind]

/-! ### Hints that show the same -/

/-- Two hints have the same references on the same lines. -/
def ShowsSame (left right : Hint) : Prop :=
  ∀ line reference, left.Shows line reference ↔ right.Shows line reference

section Same

variable {left right : Hint} {name : String} {path : List String} {root : RootVariable}

/-- Hints that show the same refer to the same paths. -/
theorem ShowsSame.refers (same : left.ShowsSame right) :
    left.Refers name path ↔ right.Refers name path := by
  simp only [Refers, same _ _]

/-- They write to the same roots. -/
theorem ShowsSame.writes (same : left.ShowsSame right) : left.Writes name ↔ right.Writes name := by
  simp only [Writes, same _ _]

/-- They pack the same roots. -/
theorem ShowsSame.packs (same : left.ShowsSame right) : left.Packs name ↔ right.Packs name := by
  simp only [Packs, same _ _]

/-- The same roots vary in them. -/
theorem ShowsSame.varies (same : left.ShowsSame right) : left.Varies name ↔ right.Varies name := by
  simp only [Varies, same.refers]

/-- A root that describes one of them describes the other. -/
theorem ShowsSame.describes (same : left.ShowsSame right) (describes : left.Describes root) :
    right.Describes root where
  ascending := describes.ascending
  paths path := (describes.paths path).trans same.refers
  nonempty := describes.nonempty
  uniform := describes.uniform
  role := describes.role.trans same.writes
  packed := describes.packed.trans same.packs

/-- What one of the hints makes of its analysis, the other one does. -/
theorem ShowsSame.finds (same : left.ShowsSame right) (id : left.id = right.id)
    {result : Except AnalysisFault Signature} (finds : left.Finds result) : right.Finds result := by
  cases finds with
  | nothing silent =>
      rw [id]
      exact .nothing fun name path refers => silent name path (same.refers.mpr refers)
  | uneven varies least ascending all =>
      rw [id]
      refine .uneven (same.varies.mp varies) (fun other otherVaries => ?_) ascending fun length => ?_
      · exact least other (same.varies.mpr otherVaries)
      · rw [all]
        simp only [same.refers]
  | roots some even ascending names describes =>
      rw [id]
      obtain ⟨name, path, refers⟩ := some
      refine .roots ⟨name, path, same.refers.mp refers⟩ (fun other varies => ?_) ascending
        (fun other => ?_) fun root member => same.describes (describes root member)
      · exact even other (same.varies.mpr varies)
      · rw [names]
        simp only [same.refers]

/-- The order of the scanned lines and their repetitions do not show. -/
theorem analyze_congr (id : left.id = right.id)
    (lines : ∀ line, line ∈ scanned 0 left.lines ↔ line ∈ scanned 0 right.lines) :
    left.analyze = right.analyze := by
  have same : left.ShowsSame right := by
    intro line reference
    constructor
    · rintro ⟨onLine, shown⟩
      exact ⟨(lines line).mp onLine, shown⟩
    · rintro ⟨onLine, shown⟩
      exact ⟨(lines line).mpr onLine, shown⟩
  have finds : right.Finds left.analyze := same.finds id (finds_analyze left)
  exact finds.unique (finds_analyze right)

/-- **Hints with the same balanced lines have the same analysis**, in whatever order the lines
stand and however often. -/
theorem analyze_eq_of_balanced (id : left.id = right.id)
    (lines : ∀ line, line ∈ left.lines ↔ line ∈ right.lines)
    (balanced : ∀ line ∈ left.lines, Balanced line) : left.analyze = right.analyze := by
  have balancedRight : ∀ line ∈ right.lines, Balanced line :=
    fun line member => balanced line ((lines line).mpr member)
  apply analyze_congr id
  intro line
  rw [scanned_of_balanced balanced, scanned_of_balanced balancedRight]
  simp only [List.mem_map, lines]

end Same

/-- A root that is written on one of the lines and accessed at another depth on the other. -/
theorem analyze_eq_of_balanced_twice :
    (∀ line, line ∈ ["ids.a.low = pack(ids.b)", "ids.a += (1)"] ↔
      line ∈ ["ids.a += (1)", "ids.a.low = pack(ids.b)", "ids.a += (1)"]) ∧
    (∀ line ∈ ["ids.a.low = pack(ids.b)", "ids.a += (1)"], Balanced line) ∧
    Hint.analyze ⟨3, ["ids.a.low = pack(ids.b)", "ids.a += (1)"]⟩ =
      Hint.analyze ⟨3, ["ids.a += (1)", "ids.a.low = pack(ids.b)", "ids.a += (1)"]⟩ := by
  have lines (line : String) : line ∈ ["ids.a.low = pack(ids.b)", "ids.a += (1)"] ↔
      line ∈ ["ids.a += (1)", "ids.a.low = pack(ids.b)", "ids.a += (1)"] := by
    simp [or_comm]
  have balanced : ∀ line ∈ ["ids.a.low = pack(ids.b)", "ids.a += (1)"], Balanced line := by
    decide +kernel
  exact ⟨lines, balanced, analyze_eq_of_balanced rfl lines balanced⟩

/-- Lines that are not balanced tell their order: behind an open bracket nothing is assigned. -/
example : Hint.analyze ⟨3, ["f(", "ids.a = 1"]⟩ ≠ Hint.analyze ⟨3, ["ids.a = 1", "f("]⟩ := by
  decide +kernel

end HintFuzz.Hint
