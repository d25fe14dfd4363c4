import Mathlib.Logic.Basic
import HintFuzz.Proofs.Engine.Behaviour
import HintFuzz.Verdict.Judge

/-!
# How judging goes

An artifact is judged in one of two ways: the verdict on the first outcomes is
kept, or it is a finding and both engines are run again (`Judge.Judges`).  What
holds of a judgement is shown for each of the two, and holds then whatever the
engines do (`Judge.exists_judges`), also with their runs on record
(`Judge.Judges.run_recorded`).
-/

namespace HintFuzz

variable {σ : Type}

namespace Judge

/-- A judge whose engines are recorded. -/
def recorded (judge : Judge σ) : Judge (σ × List Call) where
  a := judge.a.recorded .a
  b := judge.b.recorded .b
  timeout := judge.timeout
  confirm := judge.confirm

/-- One run of each engine on an artifact. -/
def calls (artifact : Artifact) (outcomes : Outcome × Outcome) : List Call :=
  [.run .a artifact outcomes.1, .run .b artifact outcomes.2]

/-- The verdict on a finding once both engines were run again. -/
def settled (detail : Discrepancy Felt) (first again : Outcome × Outcome) : Verdict :=
  match unstable? first again with
  | some slot => .inconclusive (.nonDeterministic slot)
  | none => .finding detail

/-- How judging an artifact can go: the verdict on the first outcomes is kept, or it
is a finding that the second outcomes settle.  The runs that were made are listed. -/
inductive Judges (judge : Judge σ) (artifact : Artifact) (bench : Bench σ) :
    Judgement → Bench σ → List Call → Prop
  | kept {first : Outcome × Outcome} {after : Bench σ}
      (ran : (judge.execute artifact).run bench = (first, after))
      (kept : judge.confirm = false ∨
        ∀ detail, Verdict.compare first.1 first.2 ≠ .finding detail) :
      Judges judge artifact bench ⟨first.1, first.2, Verdict.compare first.1 first.2⟩ after
        (calls artifact first)
  | settled {first again : Outcome × Outcome} {after last : Bench σ} {detail : Discrepancy Felt}
      (ran : (judge.execute artifact).run bench = (first, after))
      (confirmed : judge.confirm = true)
      (verdict : Verdict.compare first.1 first.2 = .finding detail)
      (ranAgain : (judge.execute artifact).run after = (again, last)) :
      Judges judge artifact bench ⟨first.1, first.2, settled detail first again⟩ last
        (calls artifact first ++ calls artifact again)

variable {judge : Judge σ} {artifact : Artifact} {bench after last : Bench σ}

/-- A judgement is what judging an artifact gives. -/
theorem Judges.run {judgement : Judgement} {runs : List Call}
    (judges : judge.Judges artifact bench judgement after runs) :
    (judge.judge artifact).run bench = (judgement, after) := by
  unfold Judge.judge
  cases judges with
  | @kept first _ ran kept =>
      rw [run_bind_of_run ran]
      cases verdict : Verdict.compare first.1 first.2 with
      | pass => rfl
      | inconclusive reason => rfl
      | finding detail =>
          have unconfirmed : judge.confirm = false :=
            kept.resolve_right fun none => none detail verdict
          rw [unconfirmed]
          rfl
  | @settled first again between _ detail ran confirmed verdict ranAgain =>
      rw [run_bind_of_run ran, verdict, confirmed]
      change StateT.run (judge.execute artifact >>= _) between = _
      rw [run_bind_of_run ranAgain]
      unfold Judge.settled
      cases unstable? first again with
      | none => rfl
      | some slot => rfl

/-- Judging always goes one of these ways. -/
theorem exists_judges (judge : Judge σ) (artifact : Artifact) (bench : Bench σ) :
    ∃ judgement after runs, judge.Judges artifact bench judgement after runs := by
  cases ran : (judge.execute artifact).run bench with
  | mk first after =>
      by_cases kept : judge.confirm = false ∨
          ∀ detail, Verdict.compare first.1 first.2 ≠ .finding detail
      · exact ⟨_, _, _, .kept ran kept⟩
      · rw [not_or, Bool.not_eq_false, not_forall] at kept
        obtain ⟨confirmed, detail, verdict⟩ := kept
        cases ranAgain : (judge.execute artifact).run after with
        | mk again last => exact ⟨_, _, _, .settled ran confirmed (not_not.mp verdict) ranAgain⟩

/-- The engine in the first slot is run before the one in the second. -/
theorem execute_run {a b : Outcome}
    (ranA : (judge.a.run artifact judge.timeout).run bench = (a, after))
    (ranB : (judge.b.run artifact judge.timeout).run after = (b, last)) :
    (judge.execute artifact).run bench = ((a, b), last) := by
  unfold execute
  rw [run_bind_of_run ranA, run_bind_of_run ranB]
  rfl

/-- Recorded engines are run as they are, once each. -/
theorem execute_recorded {outcomes : Outcome × Outcome}
    (ran : (judge.execute artifact).run bench = (outcomes, after)) (history : List Call) :
    (judge.recorded.execute artifact).run (bench.recording history) =
      (outcomes, after.recording (history ++ calls artifact outcomes)) := by
  cases ranA : (judge.a.run artifact judge.timeout).run bench with
  | mk a between =>
      cases ranB : (judge.b.run artifact judge.timeout).run between with
      | mk b last =>
          cases ran.symm.trans (execute_run ranA ranB)
          have recordedA := recorded_run ranA (.run .a artifact) history
          have recordedB :=
            recorded_run ranB (.run .b artifact) (history ++ [.run .a artifact a])
          rw [List.append_assoc] at recordedB
          exact execute_run recordedA recordedB

/-- Recorded engines lead to the same judgement, with the runs in the record. -/
theorem Judges.run_recorded {judgement : Judgement} {runs : List Call}
    (judges : judge.Judges artifact bench judgement after runs) (history : List Call) :
    (judge.recorded.judge artifact).run (bench.recording history) =
      (judgement, after.recording (history ++ runs)) := by
  cases judges with
  | kept ran kept =>
      have judges : judge.recorded.Judges artifact (bench.recording history) _ _ _ :=
        .kept (execute_recorded ran history) kept
      exact judges.run
  | @settled first again _ _ _ ran confirmed verdict ranAgain =>
      have recordedAgain := execute_recorded ranAgain (history ++ calls artifact first)
      rw [List.append_assoc] at recordedAgain
      have judges : judge.recorded.Judges artifact (bench.recording history) _ _ _ :=
        .settled (execute_recorded ran history) confirmed verdict recordedAgain
      exact judges.run

/-- Judges whose engines keep track of each other judge alike: they run nothing else. -/
theorem tracks_judge {τ : Type} {related : Bench σ → Bench τ → Prop} {other : Judge τ}
    (sameConfirm : judge.confirm = other.confirm)
    (engines : ∀ slot, Tracks related ((judge.engine slot).run artifact judge.timeout)
      ((other.engine slot).run artifact other.timeout)) :
    Tracks related (judge.judge artifact) (other.judge artifact) := by
  have executes : Tracks related (judge.execute artifact) (other.execute artifact) :=
    (engines .a).bind fun _ => (engines .b).bind fun _ => .pure _
  refine executes.bind fun first => ?_
  cases Verdict.compare first.1 first.2 with
  | pass => exact .pure _
  | inconclusive reason => exact .pure _
  | finding detail =>
      simp only [sameConfirm]
      split
      · refine executes.bind fun again => ?_
        cases unstable? first again with
        | some slot => exact .pure _
        | none => exact .pure _
      · exact .pure _

/-- Judging keeps what each of the engines keeps. -/
theorem keeps_judge {kept : Bench σ → Prop}
    (engines : ∀ slot, Keeps kept ((judge.engine slot).run artifact judge.timeout)) :
    Keeps kept (judge.judge artifact) :=
  keeps_iff_tracks.mpr (tracks_judge rfl fun slot => keeps_iff_tracks.mp (engines slot))

/-- What judging an artifact gives, and the runs that it took. -/
def observe (judge : Judge σ) (artifact : Artifact) (bench : Bench σ) : Judgement × List Call :=
  let (judgement, after) := (judge.recorded.judge artifact).run (bench.recording [])
  (judgement, after.world.2)

/-- What is observed of it are its runs. -/
theorem Judges.observe {judgement : Judgement} {runs : List Call}
    (judges : judge.Judges artifact bench judgement after runs) :
    judge.observe artifact bench = (judgement, runs) := by
  unfold Judge.observe
  rw [judges.run_recorded []]
  rfl

/-- What is observed has been judged. -/
theorem judges_of_observe {judgement : Judgement} {runs : List Call}
    (observed : judge.observe artifact bench = (judgement, runs)) :
    ∃ after, judge.Judges artifact bench judgement after runs := by
  obtain ⟨judgement', after, runs', judges⟩ := exists_judges judge artifact bench
  cases observed.symm.trans judges.observe
  exact ⟨after, judges⟩

end Judge

end HintFuzz
