import HintFuzz.Proofs.Catalog.Loading
import HintFuzz.Proofs.Hint.Signature
import HintFuzz.Proofs.Wrapper.Synthesis
import HintFuzz.Trial.Plan

/-!
# Plans

A plan is made of a hint of the catalog and of what is left of the seed's stream
(`Catalog.plan_eq_ok_iff`).  The stream does not depend on whether the hint was
named, and the number of the hint travels unchanged from the catalog to the
wrapper, so that naming it leads to the same plan (`Catalog.plan_hint`).
-/

namespace HintFuzz

variable {catalog : Catalog} {seed : UInt64} {hint? : Option HintId} {plan : Plan}

/-- Preparing a hint is analysis and then synthesis. -/
theorem Hint.prepare_ok {hint : Hint} {wrapper : Wrapper} (prepared : hint.prepare = .ok wrapper) :
    ∃ signature, hint.analyze = .ok signature ∧ hint.synthesize signature = .ok wrapper := by
  unfold Hint.prepare at prepared
  obtain ⟨signature, analyzed, built⟩ := bind_eq_ok_iff.mp prepared
  exact ⟨signature, mapError_eq_ok_iff.mp analyzed, mapError_eq_ok_iff.mp built⟩

/-- A wrapper has the number of its hint. -/
theorem Hint.prepare_hint {hint : Hint} {wrapper : Wrapper} (prepared : hint.prepare = .ok wrapper) :
    wrapper.hint = hint.id := by
  obtain ⟨signature, analyzed, built⟩ := Hint.prepare_ok prepared
  exact (Hint.synthesize_ok built).1.trans (Hint.analyze_ok analyzed).1

/-- All that a plan is made of. -/
theorem Catalog.plan_eq_ok_iff :
    catalog.plan seed hint? = .ok plan ↔
      ∃ id hint, (hint? <|> (catalog.select (.ofSeed seed)).1) = some id ∧
        catalog.get? id = some hint ∧ hint.prepare = .ok plan.wrapper ∧
        plan.values =
          Values.assign plan.wrapper.placeholderIds (catalog.select (.ofSeed seed)).2 := by
  unfold Catalog.plan
  cases catalog.select (.ofSeed seed) with
  | mk selected stream =>
      constructor
      · intro planned
        simp only at planned
        split at planned
        · cases planned
        · next id chosen =>
            split at planned
            · cases planned
            · next hint found =>
                obtain ⟨wrapper, prepared, made⟩ := bind_eq_ok_iff.mp planned
                cases made
                exact ⟨id, hint, chosen, found, prepared, rfl⟩
      · rintro ⟨id, hint, chosen, found, prepared, values⟩
        simp only at chosen values ⊢
        rw [chosen]
        simp only [found]
        exact bind_eq_ok_iff.mpr ⟨plan.wrapper, prepared, values ▸ rfl⟩

/-- A plan has the wrapper of the hint with its number. -/
theorem Catalog.prepare_of_plan {hint : Hint} (planned : catalog.plan seed hint? = .ok plan)
    (got : catalog.get? plan.wrapper.hint = some hint) : hint.prepare = .ok plan.wrapper := by
  obtain ⟨id, other, -, found, prepared, -⟩ := plan_eq_ok_iff.mp planned
  have named : plan.wrapper.hint = id := (Hint.prepare_hint prepared).trans (id_of_get? found)
  rw [named, found] at got
  cases got
  exact prepared

/-- **A plan names its hint.** With that hint named, the seed leads to the same plan. -/
theorem Catalog.plan_hint (planned : catalog.plan seed hint? = .ok plan) :
    catalog.plan seed (some plan.wrapper.hint) = .ok plan := by
  obtain ⟨id, hint, _, found, prepared, values⟩ := plan_eq_ok_iff.mp planned
  have named : plan.wrapper.hint = id := (Hint.prepare_hint prepared).trans (id_of_get? found)
  exact plan_eq_ok_iff.mpr ⟨id, hint, congrArg some named, found, prepared, values⟩

end HintFuzz
