import HintFuzz.Proofs.Campaign.Iteration
import HintFuzz.Proofs.Catalog.Loading
import HintFuzz.Proofs.Wrapper.Text

/-!
# Coverage

Coverage prepares every hint of a catalog once.  An iteration is skipped for what coverage reports
on its hint, or because there is no such hint, and for nothing else: a wrapper takes all values
that are drawn for its placeholders (`Campaign.coverageRule`).
-/

namespace HintFuzz

/-- The hint of an iteration: the one that is given, or else the one that the seed picks. -/
def Catalog.chosen? (catalog : Catalog) (seed : UInt64) (hint? : Option HintId) : Option HintId :=
  hint? <|> (catalog.select (.ofSeed seed)).1

/-- What keeps an iteration from being run, as coverage tells. -/
inductive Catalog.Skips (catalog : Catalog) (seed : UInt64) (hint? : Option HintId) :
    SkipReason → Prop
  | empty (noEntries : catalog.entries = []) (unnamed : hint? = none) :
      Skips catalog seed hint? .emptyCatalog
  | unknown {id : HintId} (named : hint? = some id) (unlisted : id ∉ catalog.entries.map Hint.id) :
      Skips catalog seed hint? (.unknownHint id)
  | reported {id : HintId} {reason : SkipReason} (chosen : catalog.chosen? seed hint? = some id)
      (report : ⟨id, .error reason⟩ ∈ catalog.coverage) : Skips catalog seed hint? reason

/-- What coverage tells about the iterations of a campaign. -/
structure Campaign.CoverageRule {σ : Type} (campaign : Campaign σ) : Prop where
  /-- Coverage reports on each hint once. -/
  reports : campaign.catalog.coverage.map CoverageEntry.hint =
      campaign.catalog.entries.map Hint.id ∧
    (campaign.catalog.entries.map Hint.id).Nodup
  /-- These are all reasons for which an iteration is skipped that is not cancelled. -/
  skipped_iff : ∀ seed hint? session reason, session.bench.cancelled = false →
    (((campaign.iterate seed hint? false).run session).1 = .skipped reason ↔
      campaign.catalog.Skips seed hint? reason)
  /-- The reason names the hint of the iteration, if it has one. -/
  names : ∀ seed hint? reason, campaign.catalog.Skips seed hint? reason →
    reason.hint? = campaign.catalog.chosen? seed hint?
  /-- What coverage has prepared is planned and written. -/
  plans : ∀ seed hint? id confidence, campaign.catalog.chosen? seed hint? = some id →
    ⟨id, .ok confidence⟩ ∈ campaign.catalog.coverage →
      ∃ plan text, campaign.catalog.plan seed hint? = .ok plan ∧ plan.wrapper.hint = id ∧
        plan.wrapper.confidence = confidence ∧ plan.wrapper.instantiate plan.values = .ok text
  /-- A wrapper takes the values that are drawn for its placeholders. -/
  instantiates : ∀ hint : Hint, ∀ wrapper stream, hint.prepare = .ok wrapper →
    ∃ text, wrapper.instantiate (Values.assign wrapper.placeholderIds stream) = .ok text
  /-- No iteration is skipped for its placeholders, however the session stands. -/
  binds : ∀ seed hint? expired session reason,
    ((campaign.iterate seed hint? expired).run session).1 = .skipped reason →
      reason.label ≠ .placeholderBinding
  /-- Every program can be written with tokens, so that synthesis fails for nothing but a fault
  of the signature. -/
  writes : (∀ program : Cairo.Program, ∃ text, program.render .tokens = .ok text) ∧
    ∀ hint : Hint, ∀ signature fault,
      hint.synthesize signature = .error fault ↔ Wrapper.fault? signature = some fault

/-! ### Reasons name their hints -/

section Faults

variable {hint : Hint} {reason : SkipReason}

private theorem Wrapper.hint?_of_rootFault? {id : HintId} {root : RootVariable}
    {fault : SynthesisFault}
    (wrong : rootFault? id root = some fault) : (SkipReason.synthesis fault).hint? = some id := by
  unfold rootFault? at wrong
  split at wrong
  · cases wrong
    rfl
  · split at wrong
    · obtain ⟨member, -, rfl⟩ := Option.map_eq_some_iff.mp wrong
      rfl
    · cases wrong
      rfl
    · split at wrong
      · cases wrong
        rfl
      · cases wrong

private theorem Hint.hint?_of_analyze {fault : AnalysisFault}
    (wrong : hint.analyze = .error fault) :
    (SkipReason.analysis fault).hint? = some hint.id := by
  unfold Hint.analyze at wrong
  simp only at wrong
  split at wrong
  · cases wrong
    rfl
  · split at wrong
    · cases wrong
      rfl
    · cases wrong

/-- What keeps a hint from being prepared names the hint. -/
theorem Hint.hint?_of_prepare (wrong : hint.prepare = .error reason) :
    reason.hint? = some hint.id := by
  unfold Hint.prepare at wrong
  rcases bind_eq_error_iff.mp wrong with unanalyzed | ⟨signature, analyzed, unbuilt⟩
  · obtain ⟨fault, found, rfl⟩ := mapError_eq_error_iff.mp unanalyzed
    exact Hint.hint?_of_analyze found
  · obtain ⟨fault, found, rfl⟩ := mapError_eq_error_iff.mp unbuilt
    obtain ⟨root, -, wrongRoot⟩ :=
      List.exists_of_findSome?_eq_some (Wrapper.synthesize_eq_error_iff.mp found)
    rw [Wrapper.hint?_of_rootFault? wrongRoot, (Hint.analyze_ok (mapError_eq_ok_iff.mp analyzed)).1]

/-- Faults of placeholders name no hint. -/
theorem SkipReason.hint?_of_label (binding : reason.label = .placeholderBinding) :
    reason.hint? = none := by
  match reason with
  | .emptyCatalog => rfl
  | .synthesis (.unboundPlaceholder id) => rfl
  | .synthesis (.unknownPlaceholder id) => rfl

end Faults

/-! ### Reports -/

namespace Catalog

variable {catalog : Catalog} {id : HintId} {hint : Hint} {seed : UInt64} {hint? : Option HintId}
  {reason : SkipReason}

private theorem mem_coverage_iff {result : Except SkipReason Confidence} :
    ⟨id, result⟩ ∈ catalog.coverage ↔
      ∃ hint, catalog.get? id = some hint ∧ hint.prepare.map Wrapper.confidence = result := by
  rw [coverage, List.mem_map]
  constructor
  · rintro ⟨hint, listed, same⟩
    cases same
    exact ⟨hint, get?_eq_some_iff.mpr ⟨listed, rfl⟩, rfl⟩
  · rintro ⟨hint, found, rfl⟩
    obtain ⟨listed, rfl⟩ := get?_eq_some_iff.mp found
    exact ⟨hint, listed, rfl⟩

private theorem reports_error_iff : ⟨id, .error reason⟩ ∈ catalog.coverage ↔
    ∃ hint, catalog.get? id = some hint ∧ hint.prepare = .error reason := by
  simp only [mem_coverage_iff, map_eq_error_iff]

/-! ### Plans -/

/-- All that keeps an iteration from having a plan. -/
theorem plan_eq_error_iff : catalog.plan seed hint? = .error reason ↔
    (catalog.chosen? seed hint? = none ∧ reason = .emptyCatalog) ∨
      ∃ id, catalog.chosen? seed hint? = some id ∧
        ((catalog.get? id = none ∧ reason = .unknownHint id) ∨
          ∃ hint, catalog.get? id = some hint ∧ hint.prepare = .error reason) := by
  unfold plan chosen?
  rcases catalog.select (.ofSeed seed) with ⟨selected, stream⟩
  constructor
  · intro unplanned
    simp only at unplanned
    split at unplanned
    · next none =>
        cases unplanned
        exact .inl ⟨none, rfl⟩
    · next id chosen =>
        split at unplanned
        · next missing =>
            cases unplanned
            exact .inr ⟨id, chosen, .inl ⟨missing, rfl⟩⟩
        · next hint found =>
            rcases bind_eq_error_iff.mp unplanned with wrong | ⟨wrapper, -, made⟩
            · exact .inr ⟨id, chosen, .inr ⟨hint, found, wrong⟩⟩
            · cases made
  · simp only
    rintro (⟨none, rfl⟩ | ⟨id, chosen, ⟨missing, rfl⟩ | ⟨hint, found, wrong⟩⟩)
    · rw [none]
    · rw [chosen]
      simp only [missing]
    · rw [chosen]
      simp only [found]
      exact bind_eq_error_iff.mpr (.inl wrong)

/-- A hint that cannot be planned is one that coverage reports or that does not exist. -/
theorem plan_eq_error_iff_skips :
    catalog.plan seed hint? = .error reason ↔ catalog.Skips seed hint? reason := by
  rw [plan_eq_error_iff]
  constructor
  · rintro (⟨none, rfl⟩ | ⟨id, chosen, ⟨missing, rfl⟩ | ⟨hint, found, wrong⟩⟩)
    · cases hint? with
      | none => exact .empty (select_eq_none_iff.mp none) rfl
      | some id => cases none
    · cases hint? with
      | none => exact absurd missing (get?_of_select chosen)
      | some other =>
          cases chosen
          exact .unknown rfl (get?_eq_none_iff.mp missing)
    · exact .reported chosen (reports_error_iff.mpr ⟨hint, found, wrong⟩)
  · rintro (⟨empty, rfl⟩ | ⟨rfl, missing⟩ | ⟨chosen, report⟩)
    · exact .inl ⟨select_eq_none_iff.mpr empty, rfl⟩
    · exact .inr ⟨_, rfl, .inl ⟨get?_eq_none_iff.mpr missing, rfl⟩⟩
    · exact .inr ⟨_, chosen, .inr (reports_error_iff.mp report)⟩

private theorem Skips.hint?_eq (skips : catalog.Skips seed hint? reason) :
    reason.hint? = catalog.chosen? seed hint? := by
  cases skips with
  | empty empty unnamed =>
      rw [chosen?, unnamed]
      exact (select_eq_none_iff.mpr empty).symm
  | unknown named =>
      rw [named]
      rfl
  | reported chosen report =>
      obtain ⟨hint, found, wrong⟩ := reports_error_iff.mp report
      rw [Hint.hint?_of_prepare wrong, id_of_get? found, chosen]

/-- No plan is kept from having a text. -/
theorem exists_instantiate_of_plan {plan : Plan} (planned : catalog.plan seed hint? = .ok plan) :
    ∃ text, plan.wrapper.instantiate plan.values = .ok text := by
  obtain ⟨id, hint, -, -, prepared, values⟩ := plan_eq_ok_iff.mp planned
  rw [values]
  exact (Wrapper.wraps_of_prepare prepared).exists_instantiate (Values.placeholders_assign _ _)

/-- What coverage has prepared is planned. -/
theorem exists_plan_of_report {confidence : Confidence}
    (chosen : catalog.chosen? seed hint? = some id)
    (report : ⟨id, .ok confidence⟩ ∈ catalog.coverage) :
    ∃ plan, catalog.plan seed hint? = .ok plan ∧ plan.wrapper.hint = id ∧
      plan.wrapper.confidence = confidence := by
  obtain ⟨hint, found, prepared⟩ := mem_coverage_iff.mp report
  cases made : hint.prepare with
  | error reason =>
      rw [made] at prepared
      cases prepared
  | ok wrapper =>
      rw [made] at prepared
      cases prepared
      have planned : catalog.plan seed hint? = .ok
          ⟨wrapper, Values.assign wrapper.placeholderIds (catalog.select (.ofSeed seed)).2⟩ :=
        plan_eq_ok_iff.mpr ⟨id, hint, chosen, found, made, rfl⟩
      exact ⟨_, planned, (Hint.prepare_hint made).trans (id_of_get? found), rfl⟩

end Catalog

/-! ### Iterations -/

namespace Campaign

variable {σ : Type} {campaign : Campaign σ} {seed : UInt64} {hint? : Option HintId} {expired : Bool}
  {session : Session σ} {reason : SkipReason}

private theorem concluded_ne_skipped (campaign : Campaign σ) (seed : UInt64) (plan : Plan)
    (text : String)
    (verdict : Verdict) (reason : SkipReason) :
    campaign.concluded seed plan text verdict ≠ .skipped reason := by
  cases verdict with
  | pass => exact nofun
  | inconclusive reason => exact nofun
  | finding detail => exact nofun

/-- Only what has no plan is skipped. -/
theorem plan_of_skipped
    (skipped : ((campaign.iterate seed hint? expired).run session).1 = .skipped reason) :
    campaign.catalog.plan seed hint? = .error reason := by
  obtain ⟨after, ran⟩ := exists_run_eq skipped
  cases iterates_of_run_iterate ran with
  | unplanned go meets unplanned => exact unplanned
  | unwritten go meets planned unwritten =>
      obtain ⟨text, written⟩ := Catalog.exists_instantiate_of_plan planned
      rw [written] at unwritten
      cases unwritten
  | rejected writes goOn compiled concluded =>
      exact (concluded_ne_skipped _ _ _ _ _ _ concluded).elim
  | judged writes goOn compiled goFurther judged concluded =>
      exact (concluded_ne_skipped _ _ _ _ _ _ concluded).elim

private theorem iterate_skipped_iff (go : (session.bench.cancelled || expired) = false) :
    ((campaign.iterate seed hint? expired).run session).1 = .skipped reason ↔
      campaign.catalog.plan seed hint? = .error reason := by
  constructor
  · exact plan_of_skipped
  · intro unplanned
    have skips : campaign.Iterates (pure ()) seed hint? (fun _ => expired) session
        (.skipped reason) session := .unplanned go rfl unplanned
    rw [skips.run]

/-- **Coverage predicts what is skipped.** -/
theorem coverageRule (campaign : Campaign σ) : campaign.CoverageRule where
  reports := by
    constructor
    · rw [Catalog.coverage, List.map_map]
      rfl
    · rw [Catalog.ids_entries]
      exact List.nodup_range
  skipped_iff := by
    intro seed hint? session reason clear
    have go : (session.bench.cancelled || false) = false := by rw [clear, Bool.or_false]
    rw [iterate_skipped_iff go, Catalog.plan_eq_error_iff_skips]
  names _ _ _ skips := skips.hint?_eq
  plans := by
    intro seed hint? id confidence chosen report
    obtain ⟨plan, planned, named, confident⟩ := Catalog.exists_plan_of_report chosen report
    obtain ⟨text, written⟩ := Catalog.exists_instantiate_of_plan planned
    exact ⟨plan, text, planned, named, confident, written⟩
  instantiates hint wrapper stream prepared :=
    (Wrapper.wraps_of_prepare prepared).exists_instantiate (Values.placeholders_assign _ _)
  binds := by
    intro seed hint? expired session reason skipped binding
    have skips := Catalog.plan_eq_error_iff_skips.mp (plan_of_skipped skipped)
    have unnamed := SkipReason.hint?_of_label binding
    cases skips with
    | empty => cases binding
    | unknown => cases binding
    | reported chosen report =>
        have named := (Catalog.Skips.reported chosen report).hint?_eq
        rw [unnamed, chosen] at named
        cases named
  writes := ⟨Wrapper.exists_render_tokens, fun _ _ _ => Wrapper.synthesize_eq_error_iff⟩

/-- A campaign with a hint that has a program and one that has no references. -/
def halfCovered : Campaign Unit where
  catalog := .ofHints [["ids.res.d0 = ids.a.low"], ["memory[ap] = 1"]]
  compiler := ⟨fun source _ => pure (.ok ⟨source.toUTF8.toList⟩)⟩
  judge :=
    { a := ⟨"left", fun _ _ => pure (.finished .empty)⟩
      b := ⟨"right", fun _ _ => pure (.finished .empty)⟩
      timeout := ⟨1⟩
      confirm := true }
  compileTimeout := ⟨1⟩

/-- Coverage predicts what becomes of the two hints and of one that there is not. -/
theorem halfCovered_coverageRule :
    ((halfCovered.iterate 0 (some 1) false).run ⟨⟨(), false⟩, []⟩).1 =
        .skipped (.analysis (.noReferences 1)) ∧
      ((halfCovered.iterate 0 (some 2) false).run ⟨⟨(), false⟩, []⟩).1 =
        .skipped (.unknownHint 2) ∧
      ∃ plan text, halfCovered.catalog.plan 0 (some 0) = .ok plan ∧ plan.wrapper.hint = 0 ∧
        plan.wrapper.confidence = .exact ∧ plan.wrapper.instantiate plan.values = .ok text := by
  have rule := coverageRule halfCovered
  have unprepared : (Hint.prepare ⟨1, ["memory[ap] = 1"]⟩).map Wrapper.confidence =
      .error (.analysis (.noReferences 1)) := by
    decide +kernel
  have prepared : (Hint.prepare ⟨0, ["ids.res.d0 = ids.a.low"]⟩).map Wrapper.confidence =
      .ok .exact := by
    decide +kernel
  refine ⟨?_, ?_, ?_⟩
  · refine (rule.skipped_iff 0 (some 1) ⟨⟨(), false⟩, []⟩ _ rfl).mpr (.reported rfl ?_)
    exact Catalog.mem_coverage_iff.mpr ⟨_, rfl, unprepared⟩
  · exact (rule.skipped_iff 0 (some 2) ⟨⟨(), false⟩, []⟩ _ rfl).mpr (.unknown rfl (by decide))
  · refine rule.plans 0 (some 0) 0 .exact rfl ?_
    exact Catalog.mem_coverage_iff.mpr ⟨_, rfl, prepared⟩

end Campaign

end HintFuzz
