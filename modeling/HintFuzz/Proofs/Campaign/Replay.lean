import HintFuzz.Proofs.Campaign.Iteration
import HintFuzz.Proofs.Trial.Plan
import HintFuzz.Proofs.Verdict.Confirmation

/-!
# Findings replay

A finding names all that its iteration depended on: the seed and the hint lead to
the plan again, and the plan to the text.  Where the compiler and the engines are
functions of what they are given, the text leads to the same verdict, and so to the
same record (`Campaign.iterate_replays`).
-/

namespace HintFuzz

variable {σ : Type}

/-- The seed and the hint that a finding names lead to its values, in decimal, and
these to its program. -/
def Finding.Planned (catalog : Catalog) (finding : Finding) : Prop :=
  ∃ plan, catalog.plan finding.seed (some finding.hint) = .ok plan ∧
    plan.wrapper.hint = finding.hint ∧
    finding.values =
      plan.values.map (fun assigned => ⟨assigned.placeholder, toString assigned.value⟩) ∧
    plan.wrapper.instantiate plan.values = .ok finding.programText

/-- A finding can be replayed in a campaign. -/
structure Finding.Replays (campaign : Campaign σ) (finding : Finding) : Prop where
  planned : finding.Planned campaign.catalog
  /-- Where nothing but their input decides what the compiler and the engines give, the
  iteration that is named comes to the same finding, unless it is cancelled. -/
  again : campaign.compiler.IsFunction campaign.compileTimeout →
    (∀ slot, (campaign.judge.engine slot).IsFunction campaign.judge.timeout) →
      ∀ session : Session σ, session.bench.cancelled = false →
        ((campaign.compiler.compile finding.programText campaign.compileTimeout).run
          session.bench).2.cancelled = false →
          ((campaign.iterate finding.seed (some finding.hint) false).run session).1 =
            .finding finding

namespace Campaign

variable {campaign : Campaign σ} {seed : UInt64} {hint? : Option HintId} {expired : Bool}
  {session : Session σ} {finding : Finding}

/-- A finding that concludes an iteration is the record of it. -/
theorem concluded_eq_finding {plan : Plan} {text : String} {verdict : Verdict}
    (concluded : campaign.concluded seed plan text verdict = .finding finding) :
    finding.seed = seed ∧ finding.hint = plan.wrapper.hint ∧
      finding.values =
        plan.values.map (fun assigned => ⟨assigned.placeholder, toString assigned.value⟩) ∧
      finding.programText = text := by
  cases verdict with
  | pass => cases concluded
  | inconclusive reason => cases concluded
  | finding detail =>
      cases concluded
      exact ⟨rfl, rfl, rfl, rfl⟩

/-- The plan of a finding is found again. -/
theorem planned_of_concluded {plan : Plan} {text : String} {verdict : Verdict}
    (planned : campaign.catalog.plan seed hint? = .ok plan)
    (written : plan.wrapper.instantiate plan.values = .ok text)
    (concluded : campaign.concluded seed plan text verdict = .finding finding) :
    finding.Planned campaign.catalog := by
  obtain ⟨sameSeed, hint, values, programText⟩ := concluded_eq_finding concluded
  refine ⟨plan, ?_, hint.symm, values, ?_⟩
  · rw [sameSeed, hint]
    exact Catalog.plan_hint planned
  · rw [programText]
    exact written

/-- The plan of whatever an iteration finds is found again. -/
theorem planned_of_found
    (found : ((campaign.iterate seed hint? expired).run session).1 = .finding finding) :
    finding.Planned campaign.catalog := by
  obtain ⟨after, ran⟩ := exists_run_eq found
  cases iterates_of_run_iterate ran with
  | rejected writes goOn compiled concluded =>
      exact planned_of_concluded writes.planned writes.written concluded
  | judged writes goOn compiled goFurther judged concluded =>
      exact planned_of_concluded writes.planned writes.written concluded

/-- A program that was written once is written again from its seed and its hint. -/
theorem Writes.again {late : Nat → Bool} {plan : Plan} {text : String} {met : Bench σ}
    {meanwhile : StateM (Bench σ) Unit} {before : Session σ}
    (writes : campaign.Writes meanwhile seed hint? late before plan text met)
    (go : (session.bench.cancelled || false) = false) :
    campaign.Writes (pure ()) seed (some plan.wrapper.hint) (fun _ => false) session plan text
      session.bench where
  go := go
  meets := rfl
  planned := Catalog.plan_hint writes.planned
  written := writes.written

/-- **Findings replay.** A finding of any iteration names the seed of that iteration, and
with it and its hint leads to the same plan and the same finding again. -/
theorem iterate_replays
    (found : ((campaign.iterate seed hint? expired).run session).1 = .finding finding) :
    finding.seed = seed ∧ finding.Replays campaign := by
  obtain ⟨after, ran⟩ := exists_run_eq found
  cases iterates_of_run_iterate ran with
  | rejected writes goOn compiled concluded =>
      obtain ⟨sameSeed, hint, _, programText⟩ := concluded_eq_finding concluded
      refine ⟨sameSeed, planned_of_concluded writes.planned writes.written concluded, ?_⟩
      rw [sameSeed, hint, programText]
      intro compiler engines session running uncancelled
      have go : (session.bench.cancelled || false) = false := (Bool.or_false _).trans running
      obtain ⟨between, compiledAgain⟩ := compiler.run_eq compiled session.bench
      have again : campaign.Iterates (pure ()) seed _ (fun _ => false) session (.finding finding) _ :=
        .rejected (writes.again go) go compiledAgain concluded
      exact congrArg Prod.fst again.run
  | judged writes goOn compiled goFurther judged concluded =>
      obtain ⟨sameSeed, hint, _, programText⟩ := concluded_eq_finding concluded
      refine ⟨sameSeed, planned_of_concluded writes.planned writes.written concluded, ?_⟩
      rw [sameSeed, hint, programText]
      intro compiler engines session running uncancelled
      have go : (session.bench.cancelled || false) = false := (Bool.or_false _).trans running
      obtain ⟨between, compiledAgain⟩ := compiler.run_eq compiled session.bench
      obtain ⟨last, judgedAgain⟩ := Judge.judge_run_eq_of_isFunction engines judged between
      -- The flag is read again once the artifact is there, from the new session's bench.
      rw [compiledAgain] at uncancelled
      have again : campaign.Iterates (pure ()) seed _ (fun _ => false) session (.finding finding) _ :=
        .judged (writes.again go) go compiledAgain ((Bool.or_false _).trans uncancelled) judgedAgain
          concluded
      exact congrArg Prod.fst again.run

/-- A campaign whose second engine fails on every program. -/
def lopsided : Campaign Unit where
  catalog := .ofHints [["assert ids.a == 1"], ["ids.res.d0 = ids.a.low + ids.k"]]
  compiler := ⟨fun source _ => pure (.ok ⟨source.toUTF8.toList⟩)⟩
  judge :=
    { a := ⟨"left", fun _ _ => pure (.finished .empty)⟩
      b := ⟨"right", fun artifact _ => pure (.failed .rangeCheck artifact.shortId)⟩
      timeout := ⟨1⟩
      confirm := true }
  compileTimeout := ⟨1⟩

/-- A seed that picks the second hint of two, and the replay of what it finds. -/
theorem lopsided_replays :
    ∃ finding, ((lopsided.iterate 6 none false).run ⟨⟨(), false⟩, []⟩).1 = .finding finding ∧
      (finding.seed = 6 ∧ finding.Replays lopsided) ∧ finding.hint = 1 ∧
      ((lopsided.iterate finding.seed (some finding.hint) false).run ⟨⟨(), false⟩, []⟩).1 =
        .finding finding := by
  have committed : ((lopsided.iterate 6 none false).run ⟨⟨(), false⟩, []⟩).1.committed.map
      Finding.hint = [1] := by
    decide +kernel
  cases found : ((lopsided.iterate 6 none false).run ⟨⟨(), false⟩, []⟩).1 with
  | finding finding =>
      rw [found] at committed
      have replays := iterate_replays found
      refine ⟨finding, rfl, replays, List.head_eq_of_cons_eq committed, ?_⟩
      refine replays.2.again ?_ ?_ _ rfl rfl
      · exact ⟨_, fun _ _ => rfl⟩
      · rintro (_ | _)
        · exact ⟨fun _ => _, fun _ _ => rfl⟩
        · exact ⟨_, fun _ _ => rfl⟩
  | pass => exact absurd committed (found ▸ nofun)
  | inconclusive => exact absurd committed (found ▸ nofun)
  | skipped => exact absurd committed (found ▸ nofun)
  | cancelled => exact absurd committed (found ▸ nofun)

end Campaign

end HintFuzz
