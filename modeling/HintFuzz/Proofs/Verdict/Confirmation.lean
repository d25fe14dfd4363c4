import HintFuzz.Proofs.Verdict.Equivalence
import HintFuzz.Proofs.Verdict.Judging

/-!
# Confirmed findings

The second pair of outcomes is never compared: both engines need only repeat
themselves.  Repeating oneself respects every branch of the comparison
(`Verdict.Exposes.congr`), so that a finding which stands was observed twice,
whatever the engines do (`Judge.confirmationRule`).
-/

namespace HintFuzz

variable {σ : Type}

/-! ### Outcomes that are repeated -/

/-- Repeated outcomes are those that agree. -/
theorem Outcome.reproduces_iff {first again : Outcome} :
    first.reproduces again = true ↔ first.Agrees again := by
  constructor
  · intro repeated
    match first, again with
    | .finished left, .finished right =>
        cases of_decide_eq_true repeated
        exact .finished left
    | .failed left message, .failed right message' =>
        cases of_decide_eq_true repeated
        exact .failed left message message'
    | .finished _, .failed _ _ => cases repeated
    | .failed _ _, .finished _ => cases repeated
  · intro agrees
    cases agrees with
    | finished memory => exact decide_eq_true rfl
    | failed errorClass message message' => exact decide_eq_true rfl

private theorem Outcome.Agrees.isInfrastructure_iff {first again : Outcome}
    (agrees : first.Agrees again) :
    first.IsInfrastructure ↔ again.IsInfrastructure := by
  suffices step : ∀ {first again : Outcome}, first.Agrees again →
      first.IsInfrastructure → again.IsInfrastructure from ⟨step agrees, step agrees.symm⟩
  intro first again agrees infrastructure
  cases infrastructure with
  | timeout message =>
      cases agrees with
      | failed _ _ message' => exact .timeout message'
  | unavailable message =>
      cases agrees with
      | failed _ _ message' => exact .unavailable message'

/-! ### Findings that are repeated -/

/-- A discrepancy without the wording of failures. -/
def Discrepancy.unworded {Value : Type} : Discrepancy Value → Discrepancy Value
  | .memoryMismatch address a b differingCells => .memoryMismatch address a b differingCells
  | .inconsistentOutcome failed errorClass _ => .inconsistentOutcome failed errorClass ""
  | .divergentErrorClass a b _ _ => .divergentErrorClass a b "" ""
  | .compileRejected _ => .compileRejected ""

/-- What two outcomes expose, outcomes that agree with them expose as well, up to
wording. -/
theorem Verdict.Exposes.congr {a b a' b' : Outcome} {detail : Discrepancy Felt}
    (exposes : Exposes a b detail) (left : a.Agrees a') (right : b.Agrees b') :
    ∃ detail', Exposes a' b' detail' ∧ detail'.unworded = detail.unworded := by
  cases exposes with
  | memories isLeast =>
      cases left with | finished =>
      cases right with | finished =>
      exact ⟨_, .memories isLeast, rfl⟩
  | failedA errorClass message memory =>
      cases left with | failed _ _ message' =>
      cases right with | finished =>
      exact ⟨_, .failedA errorClass message' memory, rfl⟩
  | failedB errorClass message memory =>
      cases left with | finished =>
      cases right with | failed _ _ message' =>
      exact ⟨_, .failedB errorClass message' memory, rfl⟩
  | classes differ aMessage bMessage =>
      cases left with | failed _ _ aMessage' =>
      cases right with | failed _ _ bMessage' =>
      exact ⟨_, .classes differ aMessage' bMessage', rfl⟩

/-- **Repetition respects the comparison.** -/
theorem Verdict.compare_congr {a b a' b' : Outcome} {detail : Discrepancy Felt}
    (verdict : compare a b = .finding detail) (left : a.Agrees a') (right : b.Agrees b') :
    ∃ detail', compare a' b' = .finding detail' ∧ detail'.unworded = detail.unworded := by
  obtain ⟨evidenceA, evidenceB, exposes⟩ := compare_eq_finding_iff.mp verdict
  obtain ⟨detail', exposes', unworded⟩ := exposes.congr left right
  have evidenceA' : ¬a'.IsInfrastructure := mt left.isInfrastructure_iff.mpr evidenceA
  have evidenceB' : ¬b'.IsInfrastructure := mt right.isInfrastructure_iff.mpr evidenceB
  exact ⟨detail', compare_eq_finding_iff.mpr ⟨evidenceA', evidenceB', exposes'⟩, unworded⟩

/-! ### What a second run settles -/

instance Outcome.decidableAgrees (first again : Outcome) : Decidable (first.Agrees again) :=
  decidable_of_iff _ Outcome.reproduces_iff

namespace Judge

/-- A judge that runs both engines again before a finding stands. -/
def confirming (judge : Judge σ) : Judge σ :=
  { judge with confirm := true }

/-- A judge that takes the first outcomes as they are. -/
def unconfirming (judge : Judge σ) : Judge σ :=
  { judge with confirm := false }

variable {judge : Judge σ} {artifact : Artifact} {bench : Bench σ}

private theorem settled_eq (detail : Discrepancy Felt) (first again : Outcome × Outcome) :
    settled detail first again =
      if ¬first.1.Agrees again.1 then .inconclusive (.nonDeterministic .a)
      else if ¬first.2.Agrees again.2 then .inconclusive (.nonDeterministic .b)
      else .finding detail := by
  unfold settled unstable?
  simp only [← Outcome.reproduces_iff]
  cases first.1.reproduces again.1 <;> cases first.2.reproduces again.2 <;> rfl

/-- A finding stands if both outcomes are repeated. -/
theorem settled_eq_finding_iff {detail detail' : Discrepancy Felt}
    {first again : Outcome × Outcome} :
    settled detail first again = .finding detail' ↔
      detail = detail' ∧ first.1.Agrees again.1 ∧ first.2.Agrees again.2 := by
  rw [settled_eq]
  split
  · next unstable => simp [unstable]
  · split
    · next unstable => simp [unstable]
    · next stableA stableB => simp [not_not.mp stableA, not_not.mp stableB]

/-- Without confirmation the verdict is that on the first outcomes. -/
theorem Judges.unconfirming {judgement : Judgement} {after : Bench σ} {runs : List Call}
    (judges : judge.confirming.Judges artifact bench judgement after runs) :
    ((judge.unconfirming.judge artifact).run bench).1 =
      ⟨judgement.a, judgement.b, Verdict.compare judgement.a judgement.b⟩ := by
  suffices unconfirmed : ∀ {outcomes : Outcome × Outcome} {after : Bench σ},
      (judge.execute artifact).run bench = (outcomes, after) →
        ((judge.unconfirming.judge artifact).run bench).1 =
          ⟨outcomes.1, outcomes.2, Verdict.compare outcomes.1 outcomes.2⟩ by
    cases judges with
    | kept ran => exact unconfirmed ran
    | settled ran => exact unconfirmed ran
  intro outcomes after ran
  have kept : judge.unconfirming.Judges artifact bench _ after _ := .kept ran (.inl rfl)
  rw [kept.run]

/-! ### The rule -/

/-- What it means for a judge to confirm its findings, whatever its engines do.  The
judgement and the runs of each of these are those of the judge with confirmation. -/
structure ConfirmationRule (judge : Judge σ) : Prop where
  /-- A finding that stands was observed twice: each engine ran twice, and the second
  outcomes give the same finding up to the wording of failures. -/
  twice : ∀ artifact bench judgement runs detail,
    judge.confirming.observe artifact bench = (judgement, runs) →
      judgement.verdict = .finding detail →
        ∃ again detail', runs = calls artifact (judgement.a, judgement.b) ++ calls artifact again ∧
          Verdict.compare again.1 again.2 = .finding detail' ∧ detail'.unworded = detail.unworded
  /-- A finding on the first outcomes is given up only for an engine that did not
  repeat itself, the first such engine. -/
  settled : ∀ artifact bench judgement runs detail,
    judge.confirming.observe artifact bench = (judgement, runs) →
      Verdict.compare judgement.a judgement.b = .finding detail →
        ∃ again, runs = calls artifact (judgement.a, judgement.b) ++ calls artifact again ∧
          judgement.verdict =
            if ¬judgement.a.Agrees again.1 then .inconclusive (.nonDeterministic .a)
            else if ¬judgement.b.Agrees again.2 then .inconclusive (.nonDeterministic .b)
            else .finding detail
  /-- Any other verdict on the first outcomes is kept, after one run of each engine. -/
  kept : ∀ artifact bench judgement runs,
    judge.confirming.observe artifact bench = (judgement, runs) →
      (∀ detail, Verdict.compare judgement.a judgement.b ≠ .finding detail) →
        runs = calls artifact (judgement.a, judgement.b) ∧
          judgement.verdict = Verdict.compare judgement.a judgement.b
  /-- The outcomes of a judgement are those that are taken without confirmation. -/
  first : ∀ artifact bench judgement runs,
    judge.confirming.observe artifact bench = (judgement, runs) →
      ((judge.unconfirming.judge artifact).run bench).1 =
        ⟨judgement.a, judgement.b, Verdict.compare judgement.a judgement.b⟩
  /-- Keeping the record of the runs changes no judgement. -/
  observed : ∀ artifact bench,
    (judge.confirming.observe artifact bench).1 = ((judge.confirming.judge artifact).run bench).1
  /-- Engines that are functions of the artifact are never suspected. -/
  functions : (∀ slot, (judge.engine slot).IsFunction judge.timeout) → ∀ artifact bench,
    ((judge.confirming.judge artifact).run bench).1 =
        ((judge.unconfirming.judge artifact).run bench).1 ∧
      ((judge.selfCheck artifact).run bench).1 = none

/-- Engines that are functions give the same outcomes in every run. -/
theorem exists_execute_of_isFunction
    (functions : ∀ slot, (judge.engine slot).IsFunction judge.timeout) (artifact : Artifact) :
    ∃ outcomes, ∀ bench, ∃ after, (judge.execute artifact).run bench = (outcomes, after) := by
  obtain ⟨outcomeA, answersA⟩ := functions .a
  obtain ⟨outcomeB, answersB⟩ := functions .b
  refine ⟨(outcomeA artifact, outcomeB artifact), fun bench => ?_⟩
  obtain ⟨between, ranA⟩ := exists_run_eq (answersA artifact bench)
  obtain ⟨after, ranB⟩ := exists_run_eq (answersB artifact between)
  exact ⟨after, execute_run ranA ranB⟩

/-- Engines that give the same outcomes in every run are judged by these outcomes,
with confirmation and without. -/
theorem judge_of_execute (judge : Judge σ) {outcomes : Outcome × Outcome}
    (same : ∀ bench, ∃ after, (judge.execute artifact).run bench = (outcomes, after))
    (bench : Bench σ) :
    ((judge.judge artifact).run bench).1 =
      ⟨outcomes.1, outcomes.2, Verdict.compare outcomes.1 outcomes.2⟩ := by
  have unique {bench after : Bench σ} {outcomes' : Outcome × Outcome}
      (ran : (judge.execute artifact).run bench = (outcomes', after)) : outcomes' = outcomes := by
    obtain ⟨_, ran'⟩ := same bench
    exact congrArg Prod.fst (ran.symm.trans ran')
  obtain ⟨judgement, after, runs, judges⟩ := exists_judges judge artifact bench
  rw [judges.run]
  cases judges with
  | kept ran => rw [unique ran]
  | @settled first again _ _ detail ran _ verdict ranAgain =>
      have repeated : first = again := (unique ran).trans (unique ranAgain).symm
      have stands : Judge.settled detail first again = .finding detail :=
        settled_eq_finding_iff.mpr ⟨rfl, repeated ▸ .refl first.1, repeated ▸ .refl first.2⟩
      rw [stands, ← unique ran, verdict]

/-- With engines that are functions, an artifact is judged the same from another bench. -/
theorem judge_run_eq_of_isFunction
    (functions : ∀ slot, (judge.engine slot).IsFunction judge.timeout) {after : Bench σ}
    {judgement : Judgement} (judged : (judge.judge artifact).run bench = (judgement, after))
    (bench' : Bench σ) : ∃ after', (judge.judge artifact).run bench' = (judgement, after') := by
  obtain ⟨outcomes, same⟩ := exists_execute_of_isFunction functions artifact
  have known : judgement = ⟨outcomes.1, outcomes.2, Verdict.compare outcomes.1 outcomes.2⟩ :=
    (congrArg Prod.fst judged).symm.trans (judge_of_execute judge same bench)
  exact exists_run_eq ((judge_of_execute judge same bench').trans known.symm)

/-- With engines that are functions, confirmation changes no judgement. -/
theorem judge_confirming_of_isFunction
    (functions : ∀ slot, (judge.engine slot).IsFunction judge.timeout) (artifact : Artifact)
    (bench : Bench σ) :
    ((judge.confirming.judge artifact).run bench).1 =
      ((judge.unconfirming.judge artifact).run bench).1 := by
  obtain ⟨outcomes, same⟩ := exists_execute_of_isFunction functions artifact
  have confirmed := judge_of_execute judge.confirming same bench
  have unconfirmed := judge_of_execute judge.unconfirming same bench
  exact confirmed.trans unconfirmed.symm

/-- An engine that is a function repeats itself. -/
theorem repeats_of_isFunction {slot : Slot}
    (isFunction : (judge.engine slot).IsFunction judge.timeout) (artifact : Artifact)
    (bench : Bench σ) : ∃ after, (judge.repeats artifact slot).run bench = (true, after) := by
  obtain ⟨outcome, answers⟩ := isFunction
  obtain ⟨between, ran⟩ := exists_run_eq (answers artifact bench)
  obtain ⟨after, ranAgain⟩ := exists_run_eq (answers artifact between)
  refine ⟨after, ?_⟩
  unfold repeats
  rw [run_bind_of_run ran, run_bind_of_run ranAgain]
  exact congrArg (fun repeated => (repeated, after)) (Outcome.reproduces_iff.mpr (.refl _))

private theorem selfCheck_of_isFunction
    (functions : ∀ slot, (judge.engine slot).IsFunction judge.timeout) (artifact : Artifact)
    (bench : Bench σ) : ((judge.selfCheck artifact).run bench).1 = none := by
  obtain ⟨between, repeatsA⟩ := repeats_of_isFunction (functions .a) artifact bench
  obtain ⟨after, repeatsB⟩ := repeats_of_isFunction (functions .b) artifact between
  unfold selfCheck
  rw [run_bind_of_run repeatsA]
  change (StateT.run (judge.repeats artifact .b >>= _) between).1 = none
  rw [run_bind_of_run repeatsB]
  rfl

/-- **Findings are confirmed.** Whatever the engines do, a finding that stands was
observed twice, and confirmation takes back nothing else. -/
theorem confirmationRule (judge : Judge σ) : ConfirmationRule judge where
  twice artifact bench judgement runs detail observed stands := by
    obtain ⟨after, judges⟩ := judges_of_observe observed
    cases judges with
    | kept ran kept =>
        exact absurd stands (kept.resolve_left nofun detail)
    | @settled first again _ _ _ ran _ verdict ranAgain =>
        -- The second outcomes were only checked against the first, never compared.
        obtain ⟨rfl, agreesA, agreesB⟩ := settled_eq_finding_iff.mp stands
        obtain ⟨detail', verdict', unworded⟩ := Verdict.compare_congr verdict agreesA agreesB
        exact ⟨again, detail', rfl, verdict', unworded⟩
  settled artifact bench judgement runs detail observed verdict := by
    obtain ⟨after, judges⟩ := judges_of_observe observed
    cases judges with
    | kept ran kept => exact absurd verdict (kept.resolve_left nofun detail)
    | @settled first again _ _ _ ran _ verdict' ranAgain =>
        cases verdict.symm.trans verdict'
        exact ⟨again, rfl, settled_eq detail first again⟩
  kept artifact bench judgement runs observed conclusive := by
    obtain ⟨after, judges⟩ := judges_of_observe observed
    cases judges with
    | kept => exact ⟨rfl, rfl⟩
    | settled _ _ verdict => exact absurd verdict (conclusive _)
  first artifact bench judgement runs observed := by
    obtain ⟨after, judges⟩ := judges_of_observe observed
    exact judges.unconfirming
  observed artifact bench := by
    obtain ⟨judgement, after, runs, judges⟩ := exists_judges judge.confirming artifact bench
    rw [judges.observe, judges.run]
  functions functions artifact bench :=
    ⟨judge_confirming_of_isFunction functions artifact bench,
      selfCheck_of_isFunction functions artifact bench⟩

/-- A judge whose second engine is late in its third run and fails in all others.  It counts its
runs in its messages. -/
def wavering : Judge Nat where
  a := ⟨"left", fun _ _ => pure (.finished .empty)⟩
  b := ⟨"right", fun _ _ bench =>
    (.failed (if bench.world = 2 then .timeout else .rangeCheck) (toString bench.world),
      { bench with world := bench.world + 1 })⟩
  timeout := ⟨1⟩
  confirm := true

/-- After no run the engine repeats itself but for the count, after one run it does not, and after
two runs there is nothing to repeat. -/
theorem wavering_confirmationRule :
    (∃ again detail', (wavering.observe ⟨[]⟩ ⟨0, false⟩).2 =
        calls ⟨[]⟩ (.finished .empty, .failed .rangeCheck "0") ++ calls ⟨[]⟩ again ∧
      Verdict.compare again.1 again.2 = .finding detail' ∧
        detail'.unworded = .inconsistentOutcome .b .rangeCheck "") ∧
    (∃ again, (wavering.observe ⟨[]⟩ ⟨1, false⟩).2 =
        calls ⟨[]⟩ (.finished .empty, .failed .rangeCheck "1") ++ calls ⟨[]⟩ again ∧
      (wavering.observe ⟨[]⟩ ⟨1, false⟩).1.verdict = .inconclusive (.nonDeterministic .b)) ∧
    (wavering.observe ⟨[]⟩ ⟨2, false⟩).2 =
      calls ⟨[]⟩ (.finished .empty, .failed .timeout "2") := by
  have rule := confirmationRule wavering
  refine ⟨?_, ?_, ?_⟩
  · exact rule.twice ⟨[]⟩ ⟨0, false⟩ _ _ (.inconsistentOutcome .b .rangeCheck "0") rfl rfl
  · obtain ⟨again, runs, -⟩ :=
      rule.settled ⟨[]⟩ ⟨1, false⟩ _ _ (.inconsistentOutcome .b .rangeCheck "1") rfl rfl
    exact ⟨again, runs, rfl⟩
  · have late : ∀ detail : Discrepancy Felt,
        Verdict.compare (.finished .empty) (.failed .timeout "2") ≠ .finding detail := nofun
    exact (rule.kept ⟨[]⟩ ⟨2, false⟩ ⟨.finished .empty, .failed .timeout "2", _⟩ _ rfl late).1

end Judge

end HintFuzz
