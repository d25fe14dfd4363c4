import HintFuzz.Proofs.Campaign.Replay
import HintFuzz.Proofs.Values.Assignment
import HintFuzz.Proofs.Wrapper.Identity

/-!
# Where a program comes from

Two hints never share a program text (`Hint.toldApart`): the text with tokens tells the
lines of the hint, and a text with values tells the values as well.  What a finding records
as its program therefore tells the hint's lines and every value that was drawn.
-/

namespace HintFuzz

open Cairo Cairo.Layout Wrapper

/-- The lines of a snippet's hint have no line feed in them. -/
theorem Catalog.lineFeed_notMem_ofSnippets {snippets : List String} {id : HintId} {hint : Hint}
    (found : (Catalog.ofSnippets snippets).get? id = some hint) :
    ∀ line ∈ hint.lines, '\n' ∉ line.toList := by
  have listed : hint.lines ∈ (Catalog.ofSnippets snippets).hints :=
    List.mem_map_of_mem (Catalog.get?_eq_some_iff.mp found).1
  rw [ofSnippets, hints_ofHints] at listed
  obtain ⟨snippet, -, same⟩ := List.mem_map.mp listed
  intro line member
  rw [← same] at member
  exact Text.lineFeed_notMem_of_mem_lines member

/-- Two hints are told apart by the texts of their programs. -/
structure Hint.ToldApart (left right : Hint) (leftWrapper rightWrapper : Wrapper) : Prop where
  /-- The texts with tokens are the same for the same lines only. -/
  tokens : leftWrapper.text = rightWrapper.text ↔ left.lines = right.lines
  /-- The texts with values are the same for the same lines and values only. -/
  values : ∀ leftValues rightValues leftText rightText,
    leftWrapper.instantiate leftValues = .ok leftText →
      rightWrapper.instantiate rightValues = .ok rightText →
        (leftText = rightText ↔ left.lines = right.lines ∧
          ∀ id ∈ leftWrapper.placeholderIds, valueOf? leftValues id = valueOf? rightValues id)
  /-- The programs of findings are the same for the same lines and values only. -/
  findings : ∀ {σ τ : Type} (leftCampaign : Campaign σ) (rightCampaign : Campaign τ)
    leftSeed rightSeed leftHint? rightHint? leftExpired rightExpired leftSession rightSession
    leftFinding rightFinding,
    ((leftCampaign.iterate leftSeed leftHint? leftExpired).run leftSession).1 =
        .finding leftFinding →
      ((rightCampaign.iterate rightSeed rightHint? rightExpired).run rightSession).1 =
          .finding rightFinding →
        leftCampaign.catalog.get? leftFinding.hint = some left →
          rightCampaign.catalog.get? rightFinding.hint = some right →
            (leftFinding.programText = rightFinding.programText ↔
              left.lines = right.lines ∧ leftFinding.values = rightFinding.values)

variable {left right : Hint} {leftWrapper rightWrapper : Wrapper}

/-- Texts with values are the same for the same lines and values only. -/
theorem Wrapper.Wraps.written_eq_iff {leftLines rightLines : List String}
    {leftValues rightValues : List Assigned} {leftText rightText : String}
    (leftWraps : Wraps leftWrapper leftLines) (rightWraps : Wraps rightWrapper rightLines)
    (leftWhole : ∀ line ∈ leftLines, '\n' ∉ line.toList)
    (rightWhole : ∀ line ∈ rightLines, '\n' ∉ line.toList)
    (leftAccepted : leftWrapper.instantiate leftValues = .ok leftText)
    (rightAccepted : rightWrapper.instantiate rightValues = .ok rightText) :
    leftText = rightText ↔ leftLines = rightLines ∧
      ∀ id ∈ leftWrapper.placeholderIds, valueOf? leftValues id = valueOf? rightValues id := by
  obtain ⟨leftGiven, rfl⟩ := leftWraps.instantiate_ok leftAccepted
  obtain ⟨rightGiven, rfl⟩ := rightWraps.instantiate_ok rightAccepted
  constructor
  · intro same
    have lines := leftWraps.lines_eq_of_write_eq rightWraps (fills_decimalOf _) (fills_decimalOf _)
      leftWhole rightWhole same
    subst lines
    rw [← leftWraps.program_eq rightWraps] at same
    refine ⟨rfl, fun id member => ?_⟩
    have sameText := leftWraps.texts_eq_of_write_eq (fills_decimalOf _) (fills_decimalOf _) same id
      member
    obtain ⟨leftValue, leftFound⟩ := leftGiven id member
    obtain ⟨rightValue, rightFound⟩ := rightGiven id (by
      rw [rightWraps.ids, ← leftWraps.program_eq rightWraps, ← leftWraps.ids]
      exact member)
    rw [decimalOf_eq leftFound, decimalOf_eq rightFound] at sameText
    rw [leftFound, rightFound, decimal_injective sameText]
  · rintro ⟨lines, values⟩
    subst lines
    rw [← leftWraps.program_eq rightWraps]
    refine write_congr fun id member => ?_
    rw [Program.slots_lines, ← leftWraps.ids] at member
    rw [decimalOf, decimalOf, values id member]

/-- A finding's hint has a wrapper that its values, one for each placeholder, make into its
program text. -/
theorem Finding.Planned.exists_wrapper {catalog : Catalog} {finding : Finding} {hint : Hint}
    (planned : finding.Planned catalog) (found : catalog.get? finding.hint = some hint) :
    ∃ wrapper values, hint.prepare = .ok wrapper ∧
      values.map Assigned.placeholder = wrapper.placeholderIds ∧
      finding.values =
        values.map (fun assigned => ⟨assigned.placeholder, toString assigned.value⟩) ∧
      wrapper.instantiate values = .ok finding.programText := by
  obtain ⟨plan, planEq, _, recorded, written⟩ := planned
  obtain ⟨id, other, chosen, otherFound, prepared, assigned⟩ := Catalog.plan_eq_ok_iff.mp planEq
  cases chosen
  cases found.symm.trans otherFound
  refine ⟨plan.wrapper, plan.values, prepared, ?_, recorded, written⟩
  rw [assigned, Values.placeholders_assign]

/-- Values can be read off their records. -/
theorem recordedValue_injective {left right : Assigned}
    (same : (⟨left.placeholder, toString left.value⟩ : RecordedValue) =
      ⟨right.placeholder, toString right.value⟩) : left = right := by
  cases left
  cases right
  obtain ⟨rfl, value⟩ := RecordedValue.mk.inj same
  cases decimal_injective value
  rfl

/-- **Two hints never share a program text.** -/
theorem Hint.toldApart (leftWhole : ∀ line ∈ left.lines, '\n' ∉ line.toList)
    (rightWhole : ∀ line ∈ right.lines, '\n' ∉ line.toList)
    (leftPrepared : left.prepare = .ok leftWrapper)
    (rightPrepared : right.prepare = .ok rightWrapper) :
    Hint.ToldApart left right leftWrapper rightWrapper where
  tokens := by
    have leftWraps := wraps_of_prepare leftPrepared
    have rightWraps := wraps_of_prepare rightPrepared
    rw [leftWraps.text_eq, rightWraps.text_eq]
    constructor
    · exact leftWraps.lines_eq_of_write_eq rightWraps fills_token fills_token leftWhole rightWhole
    · intro lines
      rw [leftWraps.program_eq (lines ▸ rightWraps)]
  values leftValues rightValues leftText rightText leftAccepted rightAccepted :=
    (wraps_of_prepare leftPrepared).written_eq_iff (wraps_of_prepare rightPrepared) leftWhole
      rightWhole leftAccepted rightAccepted
  findings leftCampaign rightCampaign leftSeed rightSeed leftHint? rightHint? leftExpired
      rightExpired leftSession rightSession leftFinding rightFinding leftFound rightFound leftHint
      rightHint := by
    obtain ⟨leftWrapper, leftValues, leftPrepared, leftIds, leftRecorded, leftAccepted⟩ :=
      (Campaign.planned_of_found leftFound).exists_wrapper leftHint
    obtain ⟨rightWrapper, rightValues, rightPrepared, rightIds, rightRecorded, rightAccepted⟩ :=
      (Campaign.planned_of_found rightFound).exists_wrapper rightHint
    have leftWraps := wraps_of_prepare leftPrepared
    have rightWraps := wraps_of_prepare rightPrepared
    rw [leftWraps.written_eq_iff rightWraps leftWhole rightWhole leftAccepted rightAccepted,
      leftRecorded, rightRecorded]
    refine and_congr_right fun lines => ?_
    have sameIds : leftValues.map Assigned.placeholder = rightValues.map Assigned.placeholder := by
      rw [leftIds, rightIds, leftWraps.ids, rightWraps.ids,
        leftWraps.program_eq (lines ▸ rightWraps)]
    constructor
    · intro same
      have sameValues : leftValues = rightValues :=
        eq_of_valueOf?_eq sameIds (leftIds ▸ leftWraps.ids_nodup) (leftIds ▸ same)
      rw [sameValues]
    · intro same id _
      rw [(List.map_inj_right fun _ _ => recordedValue_injective).mp same]

/-- Two hints, of which the second goes on as the program of the first does. -/
def Catalog.imitations : Catalog :=
  .ofSnippets
    ["ids.res.d0 = ids.a.low", "ids.res.d0 = ids.a.low\n    %\x7d\n    return res;\n\x7d\n"]

/-- A hint is told apart from one that writes the end of its block itself. -/
theorem Hint.imitations_toldApart :
    ∃ left right leftWrapper rightWrapper, Catalog.imitations.get? 0 = some left ∧
      Catalog.imitations.get? 1 = some right ∧ left.prepare = .ok leftWrapper ∧
      right.prepare = .ok rightWrapper ∧ Hint.ToldApart left right leftWrapper rightWrapper ∧
      leftWrapper.text ≠ rightWrapper.text := by
  let left : Hint := ⟨0, ["ids.res.d0 = ids.a.low"]⟩
  let right : Hint := ⟨1, ["ids.res.d0 = ids.a.low", "    %\x7d", "    return res;", "\x7d"]⟩
  have leftFound : Catalog.imitations.get? 0 = some left := by decide +kernel
  have rightFound : Catalog.imitations.get? 1 = some right := by decide +kernel
  have leftSucceeds : left.prepare.isOk = true := by decide +kernel
  have rightSucceeds : right.prepare.isOk = true := by decide +kernel
  obtain ⟨leftWrapper, leftPrepared⟩ := exists_ok_of_isOk leftSucceeds
  obtain ⟨rightWrapper, rightPrepared⟩ := exists_ok_of_isOk rightSucceeds
  have apart := Hint.toldApart (Catalog.lineFeed_notMem_ofSnippets leftFound)
    (Catalog.lineFeed_notMem_ofSnippets rightFound) leftPrepared rightPrepared
  refine ⟨left, right, leftWrapper, rightWrapper, leftFound, rightFound, leftPrepared,
    rightPrepared, apart, ?_⟩
  intro same
  exact absurd (apart.tokens.mp same) (by decide)

end HintFuzz
