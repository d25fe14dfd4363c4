import HintFuzz.Cairo.Types

/-!
# The declaration order of types

Types are compared by rank, and generated structs by name and members.  The
comparison is a strict total order, so a list of types has one ascending form.
-/

namespace HintFuzz.Cairo.CairoType

/-- A type comes before another one by its rank, or both are generated and their
names or, for equal names, their members decide. -/
theorem lt_iff {left right : CairoType} :
    left < right ↔ left.rank < right.rank ∨
      ∃ name members name' members', left = generated name members ∧
        right = generated name' members' ∧
        (name < name' ∨ name = name' ∧ members < members') := by
  change left.declaredBefore right = true ↔ _
  unfold declaredBefore
  split
  · next name members name' members' =>
      simp only [Bool.or_eq_true, Bool.and_eq_true, decide_eq_true_eq]
      constructor
      · intro decided
        exact .inr ⟨name, members, name', members', rfl, rfl, decided⟩
      · rintro (before | ⟨_, _, _, _, leftEq, rightEq, decided⟩)
        · exact absurd before (Nat.lt_irrefl 5)
        · cases leftEq
          cases rightEq
          exact decided
  · next notGenerated =>
      rw [decide_eq_true_eq]
      refine ⟨.inl, ?_⟩
      rintro (before | ⟨name, members, name', members', leftEq, rightEq, _⟩)
      · exact before
      · exact (notGenerated name members name' members' leftEq rightEq).elim

/-- Generated structs are compared by name and then by members. -/
theorem generated_lt_iff {name name' : String} {members members' : List String} :
    generated name members < generated name' members' ↔
      name < name' ∨ name = name' ∧ members < members' := by
  change (generated name members).declaredBefore (generated name' members') = true ↔ _
  simp only [declaredBefore, Bool.or_eq_true, Bool.and_eq_true, decide_eq_true_eq]

/-- Later types have no smaller rank. -/
theorem rank_le_of_lt {left right : CairoType} (before : left < right) :
    left.rank ≤ right.rank := by
  rcases lt_iff.mp before with smaller | ⟨name, members, name', members', rfl, rfl, _⟩
  · exact Nat.le_of_lt smaller
  · exact Nat.le_refl 5

/-- Types of one rank are equal, or both are generated. -/
theorem eq_of_rank_eq {left right : CairoType} (same : left.rank = right.rank) :
    left = right ∨ ∃ name members name' members',
      left = generated name members ∧ right = generated name' members' := by
  rcases left with _ | (_ | _ | _ | _) | ⟨name, members⟩ <;>
    rcases right with _ | (_ | _ | _ | _) | ⟨name', members'⟩ <;>
    first
    | exact .inl rfl
    | exact .inr ⟨_, _, _, _, rfl, rfl⟩
    | cases same

instance : Std.Irrefl (α := CairoType) (· < ·) where
  irrefl type before := by
    rcases lt_iff.mp before with smaller | ⟨name, members, name', members', rfl, same, decided⟩
    · exact Nat.lt_irrefl _ smaller
    · cases same
      rcases decided with smaller | ⟨_, smaller⟩
      · exact String.lt_irrefl _ smaller
      · exact List.lt_irrefl _ smaller

instance : Trans (α := CairoType) (· < ·) (· < ·) (· < ·) where
  trans {first second third} before after := by
    rcases lt_iff.mp before with smaller | ⟨_, _, _, _, rfl, rfl, decided⟩
    · exact lt_iff.mpr (.inl (Nat.lt_of_lt_of_le smaller (rank_le_of_lt after)))
    · rcases lt_iff.mp after with smaller | ⟨_, _, _, _, same, rfl, decided'⟩
      · exact lt_iff.mpr (.inl smaller)
      · cases same
        refine lt_iff.mpr (.inr ⟨_, _, _, _, rfl, rfl, ?_⟩)
        rcases decided with smaller | ⟨rfl, smaller⟩ <;>
          rcases decided' with smaller' | ⟨rfl, smaller'⟩
        · exact .inl (String.lt_trans smaller smaller')
        · exact .inl smaller
        · exact .inl smaller'
        · exact .inr ⟨rfl, List.lt_trans smaller smaller'⟩

instance : Std.Trichotomous (α := CairoType) (· < ·) where
  trichotomous left right notBefore notAfter := by
    have same : left.rank = right.rank := Nat.le_antisymm
      (Nat.le_of_not_lt fun smaller => notAfter (lt_iff.mpr (.inl smaller)))
      (Nat.le_of_not_lt fun smaller => notBefore (lt_iff.mpr (.inl smaller)))
    rcases eq_of_rank_eq same with equal | ⟨name, members, name', members', rfl, rfl⟩
    · exact equal
    · have sameName : name = name' := Std.Trichotomous.trichotomous name name'
        (fun smaller => notBefore (generated_lt_iff.mpr (.inl smaller)))
        (fun smaller => notAfter (generated_lt_iff.mpr (.inl smaller)))
      subst sameName
      have sameMembers : members = members' := Std.Trichotomous.trichotomous members members'
        (fun smaller => notBefore (generated_lt_iff.mpr (.inr ⟨rfl, smaller⟩)))
        (fun smaller => notAfter (generated_lt_iff.mpr (.inr ⟨rfl, smaller⟩)))
      rw [sameMembers]

end HintFuzz.Cairo.CairoType
