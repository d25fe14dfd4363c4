import HintFuzz.Proofs.Campaign.Cancellation
import HintFuzz.Proofs.Campaign.Replay
import HintFuzz.Proofs.Trial.Plan
import HintFuzz.Proofs.Verdict.Confirmation
import HintFuzz.Proofs.Wrapper.Fitting

/-!
# Who is to blame for a rejected program

A compiler is blamed for rejecting a program only if the program fits every reference of its
hint.  If it does not, because a root has a generated struct or because the hint accesses a
field that the type of its root does not have, the rejection shows nothing: no engine is run
and nothing is committed (`Campaign.rejectionRule`).
-/

namespace HintFuzz

variable {σ : Type}

/-- An artifact is judged by its runs, so that no judgement blames the compiler. -/
theorem Judge.verdict_ne_compileRejected {judge : Judge σ} {artifact : Artifact}
    {bench after : Bench σ} {judgement : Judgement} {message : String}
    (judged : (judge.judge artifact).run bench = (judgement, after)) :
    judgement.verdict ≠ .finding (.compileRejected message) := by
  obtain ⟨judgement', last, runs, judges⟩ := exists_judges judge artifact bench
  cases judged.symm.trans judges.run
  cases judges with
  | kept ran kept => exact Verdict.compare_ne_compileRejected
  | settled ran confirmed verdict ranAgain =>
      intro stands
      obtain ⟨rfl, -, -⟩ := settled_eq_finding_iff.mp stands
      exact Verdict.compare_ne_compileRejected verdict

namespace Campaign

variable {campaign : Campaign σ} {meanwhile : StateM (Bench σ) Unit} {seed : UInt64}
  {hint? : Option HintId} {expired : Bool} {session after : Session σ} {iteration : Iteration}
  {finding : Finding} {message : String} {plan : Plan}

/-- A finding that blames the compiler concludes a verdict that does. -/
theorem verdict_of_concluded {text : String} {verdict : Verdict}
    (concluded : campaign.concluded seed plan text verdict = .finding finding)
    (blames : finding.detail = .compileRejected message) :
    verdict = .finding (.compileRejected message) := by
  cases verdict with
  | pass => cases concluded
  | inconclusive reason => cases concluded
  | finding detail =>
      cases concluded
      cases detail with
      | compileRejected other =>
          cases blames
          rfl
      | memoryMismatch => cases blames
      | inconsistentOutcome => cases blames
      | divergentErrorClass => cases blames

/-- Only the rejection of an exact program blames the compiler. -/
theorem exact_of_ofCompileFault {fault : CompileFault} {confidence : Confidence}
    (blames : Verdict.ofCompileFault fault confidence = .finding (.compileRejected message)) :
    confidence = .exact := by
  cases fault with
  | rejected other =>
      cases confidence with
      | exact => rfl
      | approximate => cases blames
  | timeout limit => cases blames
  | unreachable cause => cases blames

/-- An iteration that blames the compiler has the plan of an exact program. -/
theorem Iterates.exact {late : Nat → Bool}
    (iterates : campaign.Iterates meanwhile seed hint? late session (.finding finding) after)
    (blames : finding.detail = .compileRejected message) :
    ∃ plan, campaign.catalog.plan seed hint? = .ok plan ∧ plan.wrapper.hint = finding.hint ∧
      plan.wrapper.confidence = .exact := by
  cases iterates with
  | @rejected plan _ _ _ _ _ writes goOn compiled concluded =>
      obtain ⟨-, hint, -, -⟩ := concluded_eq_finding concluded
      have verdict := verdict_of_concluded concluded blames
      exact ⟨plan, writes.planned, hint.symm, exact_of_ofCompileFault verdict⟩
  | judged writes goOn compiled goFurther judged concluded =>
      -- The program was compiled, so its runs were compared.
      have verdict := verdict_of_concluded concluded blames
      exact absurd verdict (Judge.verdict_ne_compileRejected judged)

/-- Whom a rejected program speaks against, whatever the compiler, the engines and others do. -/
structure RejectionRule (campaign : Campaign σ) : Prop where
  /-- Observing an iteration changes nothing. -/
  observed : ∀ meanwhile seed hint? expired session, ∃ calls,
    campaign.observe meanwhile seed hint? expired session =
      (((campaign.iterateAmid meanwhile seed hint? expired).run session).1,
        ((campaign.iterateAmid meanwhile seed hint? expired).run session).2, calls)
  /-- A finding that blames the compiler is of a hint each of whose references fits the
  program: no root has a generated struct, and all fields name a felt of the root's type. -/
  blamed : ∀ meanwhile seed hint? expired session finding message,
    (campaign.observe meanwhile seed hint? expired session).1 = .finding finding →
      finding.detail = .compileRejected message →
        ∃ hint wrapper, campaign.catalog.get? finding.hint = some hint ∧
          hint.prepare = .ok wrapper ∧
            ∀ occurrence ∈ Hint.occurrences 0 hint.lines,
              wrapper.program.Fits occurrence.root occurrence.path
  /-- If a root has a generated struct, or a type in which the fields of a reference do not
  lead to a felt, a rejection is inconclusive: no engine is run, and nothing is committed. -/
  spared : ∀ meanwhile seed hint? expired session between last plan text message,
    (session.bench.cancelled || expired) = false →
      meanwhile.run session.bench = ((), between) → (between.cancelled || expired) = false →
        campaign.catalog.plan seed hint? = .ok plan →
          plan.wrapper.instantiate plan.values = .ok text →
            (campaign.compiler.compile text campaign.compileTimeout).run between =
                (.error (.rejected message), last) →
              ∀ hint, campaign.catalog.get? plan.wrapper.hint = some hint →
                ∀ occurrence ∈ Hint.occurrences 0 hint.lines, ∀ type,
                  plan.wrapper.program.Gives occurrence.root type →
                    (type ∉ Cairo.vocabulary ∨ occurrence.path ≠ [] ∧
                      ¬Cairo.LeadsToFelt plan.wrapper.program.structs type occurrence.path) →
                    campaign.observe meanwhile seed hint? expired session =
                      (.inconclusive (.approximateRejected message), ⟨last, session.log⟩,
                        [.compile text (.error (.rejected message))])
  /-- If every reference fits, a rejection is a finding. -/
  accused : ∀ meanwhile seed hint? expired session between last plan text message,
    (session.bench.cancelled || expired) = false →
      meanwhile.run session.bench = ((), between) → (between.cancelled || expired) = false →
        campaign.catalog.plan seed hint? = .ok plan →
          plan.wrapper.instantiate plan.values = .ok text →
            (campaign.compiler.compile text campaign.compileTimeout).run between =
                (.error (.rejected message), last) →
              ∀ hint, campaign.catalog.get? plan.wrapper.hint = some hint →
                (∀ occurrence ∈ Hint.occurrences 0 hint.lines,
                  plan.wrapper.program.Fits occurrence.root occurrence.path) →
                    ∃ finding, finding.detail = .compileRejected message ∧
                      campaign.observe meanwhile seed hint? expired session =
                        (.finding finding, ⟨last, session.log ++ [finding]⟩,
                          [.compile text (.error (.rejected message))])

/-- **Only programs that fit their hint blame the compiler.** -/
theorem rejectionRule (campaign : Campaign σ) : RejectionRule campaign where
  observed := exists_observe_eq campaign
  blamed meanwhile seed hint? expired session finding message found blames := by
    obtain ⟨calls, observed⟩ := exists_observe_eq campaign meanwhile seed hint? expired session
    rw [observed] at found
    have comes : ((campaign.iterateAmid meanwhile seed hint? expired).run session).1 =
        .finding finding := found
    obtain ⟨after, ran⟩ := exists_run_eq comes
    have iterates := iterates_of_run_amid ran
    obtain ⟨plan, planned, named, exact⟩ := iterates.exact blames
    obtain ⟨id, hint, -, got, prepared, -⟩ := Catalog.plan_eq_ok_iff.mp planned
    have same : finding.hint = id :=
      named.symm.trans ((Hint.prepare_hint prepared).trans (Catalog.id_of_get? got))
    exact ⟨hint, plan.wrapper, same ▸ got, prepared, (Hint.exact_iff_fits prepared).mp exact⟩
  spared meanwhile seed hint? expired session between last plan text message go met goOn planned
      written rejected hint got occurrence found type given misfit := by
    have prepared := Catalog.prepare_of_plan planned got
    -- The wrapper of an exact program would fit the reference, too.
    have approximate : plan.wrapper.confidence = .approximate := by
      cases confidence : plan.wrapper.confidence with
      | approximate => rfl
      | exact =>
          have fits := (Hint.exact_iff_fits prepared).mp confidence occurrence found
          rcases misfit with generated | ⟨some, astray⟩
          · exact absurd (fits.known type given) generated
          · exact absurd (fits.leads type given) (not_or.mpr ⟨some, astray⟩)
    have writes : campaign.Writes meanwhile seed hint? (fun _ => expired) session plan text between :=
      ⟨go, met, planned, written⟩
    rw [writes.observe_of_refused goOn rejected, approximate]
    refine Prod.ext rfl (Prod.ext ?_ rfl)
    exact congrArg (Session.mk last) (List.append_nil session.log)
  accused meanwhile seed hint? expired session between last plan text message go met goOn planned
      written rejected hint got fits := by
    have exact := (Hint.exact_iff_fits (Catalog.prepare_of_plan planned got)).mpr fits
    have writes : campaign.Writes meanwhile seed hint? (fun _ => expired) session plan text between :=
      ⟨go, met, planned, written⟩
    refine ⟨Finding.ofIteration plan.wrapper.hint seed plan.values text campaign.judge.a.name
      campaign.judge.b.name (.compileRejected message), rfl, ?_⟩
    rw [writes.observe_of_refused goOn rejected, exact]
    rfl

/-- A campaign with a hint that its program fits and one whose input has a generated struct.  The
compiler rejects both programs. -/
def rejecting : Campaign Unit where
  catalog := .ofHints [["ids.res.d0 = ids.a.low"], ["ids.res.d0 = ids.point.side"]]
  compiler := ⟨fun _ _ => pure (.error (.rejected "unexpected token"))⟩
  judge :=
    { a := ⟨"left", fun _ _ => pure (.finished .empty)⟩
      b := ⟨"right", fun _ _ => pure (.finished .empty)⟩
      timeout := ⟨1⟩
      confirm := true }
  compileTimeout := ⟨1⟩

/-- The first program blames the compiler, the second one does not. -/
theorem rejecting_rejectionRule :
    (∃ finding text, finding.detail = .compileRejected "unexpected token" ∧
      rejecting.observe (pure ()) 0 (some 0) false ⟨⟨(), false⟩, []⟩ =
        (.finding finding, ⟨⟨(), false⟩, [finding]⟩,
          [.compile text (.error (.rejected "unexpected token"))]) ∧
      ∃ hint wrapper, rejecting.catalog.get? finding.hint = some hint ∧
        hint.prepare = .ok wrapper ∧ ∀ occurrence ∈ Hint.occurrences 0 hint.lines,
          wrapper.program.Fits occurrence.root occurrence.path) ∧
    ∃ text, rejecting.observe (pure ()) 0 (some 1) false ⟨⟨(), false⟩, []⟩ =
      (.inconclusive (.approximateRejected "unexpected token"), ⟨⟨(), false⟩, []⟩,
        [.compile text (.error (.rejected "unexpected token"))]) := by
  have rule := rejectionRule rejecting
  constructor
  · have seen : (rejecting.catalog.plan 0 (some 0)).toOption.any (fun plan =>
        plan.wrapper.hint = 0 && plan.wrapper.confidence = .exact &&
          (plan.wrapper.instantiate plan.values).isOk) = true := by
      decide +kernel
    obtain ⟨plan, planned, checked⟩ := exists_ok_of_any seen
    simp only [Bool.and_eq_true, decide_eq_true_eq] at checked
    obtain ⟨⟨named, exact⟩, succeeds⟩ := checked
    obtain ⟨text, written⟩ := exists_ok_of_isOk succeeds
    have got : rejecting.catalog.get? plan.wrapper.hint =
        some ⟨0, ["ids.res.d0 = ids.a.low"]⟩ := by
      rw [named]
      rfl
    have fits := (Hint.exact_iff_fits (Catalog.prepare_of_plan planned got)).mp exact
    obtain ⟨finding, blames, observed⟩ := rule.accused (pure ()) 0 (some 0) false
      ⟨⟨(), false⟩, []⟩ _ _ plan text _ rfl rfl rfl planned written rfl _ got fits
    refine ⟨finding, text, blames, observed, ?_⟩
    exact rule.blamed (pure ()) 0 (some 0) false ⟨⟨(), false⟩, []⟩ finding _
      (congrArg Prod.fst observed) blames
  · have seen : (rejecting.catalog.plan 0 (some 1)).toOption.any (fun plan =>
        plan.wrapper.hint = 1 && (plan.wrapper.instantiate plan.values).isOk &&
          plan.wrapper.program.functions.any fun function =>
            function.params.contains ⟨"point", "FuzzStruct0"⟩) = true := by
      decide +kernel
    obtain ⟨plan, planned, checked⟩ := exists_ok_of_any seen
    simp only [Bool.and_eq_true, decide_eq_true_eq, List.any_eq_true, List.contains_iff_mem]
      at checked
    obtain ⟨⟨named, succeeds⟩, function, listed, param⟩ := checked
    obtain ⟨text, written⟩ := exists_ok_of_isOk succeeds
    have got : rejecting.catalog.get? plan.wrapper.hint =
        some ⟨1, ["ids.res.d0 = ids.point.side"]⟩ := by
      rw [named]
      rfl
    have given : plan.wrapper.program.Gives "point" "FuzzStruct0" :=
      ⟨function, listed, .inl param⟩
    have found : ∃ occurrence ∈ Hint.occurrences 0 ["ids.res.d0 = ids.point.side"],
        occurrence.root = "point" := by
      decide +kernel
    obtain ⟨occurrence, occurs, root⟩ := found
    have generated : "FuzzStruct0" ∉ Cairo.vocabulary := by decide
    refine ⟨text, ?_⟩
    exact rule.spared (pure ()) 0 (some 1) false ⟨⟨(), false⟩, []⟩ _ _ plan text _ rfl rfl rfl
      planned written rfl _ got occurrence occurs "FuzzStruct0" (root ▸ given) (.inl generated)

end Campaign

end HintFuzz
