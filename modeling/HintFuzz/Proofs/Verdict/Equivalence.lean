import HintFuzz.Proofs.Memory.Differences
import HintFuzz.Verdict.Compare

/-!
# The equivalence rule

Two outcomes are compared by one rule, which is stated here without the code that
decides it (`EquivalenceRule`).  A failure of the machinery around an engine says
nothing; otherwise two outcomes agree if they are equal memories or failures of one
class, and any other pair is a finding that names what differs.  The comparison of
outcomes is this rule (`Verdict.equivalenceRule_compare`).
-/

namespace HintFuzz

/-! ### Outcomes -/

/-- An outcome says why it is no evidence about the engine in a slot. -/
inductive Outcome.Excuses (slot : Slot) : Outcome → Inconclusive → Prop
  | timeout (message : String) : Excuses slot (.failed .timeout message) (.engineTimeout slot)
  | unavailable (message : String) :
      Excuses slot (.failed .unavailable message) (.engineUnavailable slot message)

/-- A run that ran out of time or could not be started. -/
inductive Outcome.IsInfrastructure : Outcome → Prop
  | timeout (message : String) : IsInfrastructure (.failed .timeout message)
  | unavailable (message : String) : IsInfrastructure (.failed .unavailable message)

/-- Two runs ended with the same memory or failed with the same class. -/
inductive Outcome.Agrees : Outcome → Outcome → Prop
  | finished (memory : Snapshot) : Agrees (.finished memory) (.finished memory)
  | failed (errorClass : ErrorClass) (message message' : String) :
      Agrees (.failed errorClass message) (.failed errorClass message')

variable {slot : Slot} {outcome : Outcome} {reason reason' : Inconclusive}

/-- Only infrastructure failures are excuses. -/
theorem Outcome.Excuses.isInfrastructure (excuses : outcome.Excuses slot reason) :
    outcome.IsInfrastructure := by
  cases excuses with
  | timeout message => exact .timeout message
  | unavailable message => exact .unavailable message

private theorem Outcome.IsInfrastructure.excuses (infrastructure : outcome.IsInfrastructure)
    (slot : Slot) : ∃ reason, outcome.Excuses slot reason := by
  cases infrastructure with
  | timeout message => exact ⟨_, .timeout message⟩
  | unavailable message => exact ⟨_, .unavailable message⟩

/-- An outcome has one excuse at most. -/
theorem Outcome.Excuses.unique (first : outcome.Excuses slot reason)
    (second : outcome.Excuses slot reason') : reason = reason' := by
  cases first <;> cases second <;> rfl

private theorem Outcome.not_isInfrastructure_finished (memory : Snapshot) :
    ¬(Outcome.finished memory).IsInfrastructure :=
  nofun

/-- An outcome agrees with itself. -/
theorem Outcome.Agrees.refl (outcome : Outcome) : outcome.Agrees outcome := by
  cases outcome with
  | finished memory => exact .finished memory
  | failed errorClass message => exact .failed errorClass message message

/-- Agreement goes both ways. -/
theorem Outcome.Agrees.symm {a b : Outcome} (agrees : a.Agrees b) : b.Agrees a := by
  cases agrees with
  | finished memory => exact .finished memory
  | failed errorClass message message' => exact .failed errorClass message' message

/-- The failures that are told apart from evidence are exactly those that are none. -/
theorem Outcome.infrastructureFailure?_eq_some_iff :
    outcome.infrastructureFailure? slot = some reason ↔ outcome.Excuses slot reason := by
  constructor
  · intro found
    unfold infrastructureFailure? at found
    split at found
    · cases found
      exact .timeout _
    · cases found
      exact .unavailable _
    · cases found
  · rintro (message | message) <;> rfl

private theorem Outcome.infrastructureFailure?_eq_none_iff :
    outcome.infrastructureFailure? slot = none ↔ ¬outcome.IsInfrastructure := by
  rw [Option.eq_none_iff_forall_ne_some]
  simp only [ne_eq, infrastructureFailure?_eq_some_iff]
  exact ⟨fun none infrastructure =>
    let ⟨reason, excuses⟩ := infrastructure.excuses slot
    none reason excuses,
    fun evidence reason excuses => evidence excuses.isInfrastructure⟩

/-! ### Both sides exchanged -/

/-- The other slot. -/
def Slot.other : Slot → Slot
  | a => b
  | b => a

/-- A discrepancy seen from the other side. -/
def Discrepancy.swap {Value : Type} : Discrepancy Value → Discrepancy Value
  | memoryMismatch address a b differingCells => memoryMismatch address b a differingCells
  | inconsistentOutcome failed errorClass message =>
    inconsistentOutcome failed.other errorClass message
  | divergentErrorClass a b aMessage bMessage => divergentErrorClass b a bMessage aMessage
  | compileRejected message => compileRejected message

/-- A reason with the slots exchanged. -/
def Inconclusive.swap : Inconclusive → Inconclusive
  | engineTimeout slot => engineTimeout slot.other
  | engineUnavailable slot message => engineUnavailable slot.other message
  | compileTimeout => compileTimeout
  | compilerIo cause => compilerIo cause
  | approximateRejected message => approximateRejected message
  | nonDeterministic slot => nonDeterministic slot.other

/-- A verdict with the slots exchanged. -/
def Verdict.swap : Verdict → Verdict
  | pass => pass
  | finding detail => finding detail.swap
  | inconclusive reason => inconclusive reason.swap

/-- In the other slot, an excuse names that slot. -/
theorem Outcome.Excuses.swap (excuses : outcome.Excuses slot reason) :
    outcome.Excuses slot.other reason.swap := by
  cases excuses with
  | timeout message => exact .timeout message
  | unavailable message => exact .unavailable message

/-! ### The rule -/

/-- What it means for a comparison of outcomes to be the equivalence rule. -/
structure EquivalenceRule (compare : Outcome → Outcome → Verdict) : Prop where
  /-- A side that is no evidence makes the pair inconclusive. -/
  inconclusive : ∀ a b, (∃ reason, compare a b = .inconclusive reason) ↔
    a.IsInfrastructure ∨ b.IsInfrastructure
  /-- The reason is that of the side that is no evidence, of the first one for both. -/
  reason : ∀ a b reason, compare a b = .inconclusive reason ↔
    a.Excuses .a reason ∨ ¬a.IsInfrastructure ∧ b.Excuses .b reason
  pass : ∀ a b, compare a b = .pass ↔
    ¬a.IsInfrastructure ∧ ¬b.IsInfrastructure ∧ a.Agrees b
  finding : ∀ a b, (∃ detail, compare a b = .finding detail) ↔
    ¬a.IsInfrastructure ∧ ¬b.IsInfrastructure ∧ ¬a.Agrees b
  /-- The mismatch of two memories is the least address at which they differ, with
  both values and the number of addresses of either at which they differ. -/
  memoryMismatch : ∀ a b address x y count,
    compare a b = .finding (.memoryMismatch address x y count) ↔
      ∃ left right, a = .finished left ∧ b = .finished right ∧
        IsLeast {address | left.get? address ≠ right.get? address} address ∧
        x = left.get? address ∧ y = right.get? address ∧ count = (left.differing right).card
  /-- A mismatch is one of different values, and counted. -/
  mismatch_ne : ∀ a b address x y count,
    compare a b = .finding (.memoryMismatch address x y count) → x ≠ y ∧ 1 ≤ count
  inconsistentOutcome : ∀ a b failed errorClass message,
    compare a b = .finding (.inconsistentOutcome failed errorClass message) ↔
      ¬a.IsInfrastructure ∧ ¬b.IsInfrastructure ∧
        (failed = .a ∧ a = .failed errorClass message ∧ (∃ memory, b = .finished memory) ∨
          failed = .b ∧ b = .failed errorClass message ∧ ∃ memory, a = .finished memory)
  divergentErrorClass : ∀ a b aClass bClass aMessage bMessage,
    compare a b = .finding (.divergentErrorClass aClass bClass aMessage bMessage) ↔
      ¬a.IsInfrastructure ∧ ¬b.IsInfrastructure ∧
        a = .failed aClass aMessage ∧ b = .failed bClass bMessage ∧ aClass ≠ bClass
  compileRejected : ∀ a b message, compare a b ≠ .finding (.compileRejected message)
  self : ∀ a detail, compare a a ≠ .finding detail
  /-- Unless both sides are no evidence, exchanging them exchanges the verdict's sides. -/
  swap : ∀ a b, ¬(a.IsInfrastructure ∧ b.IsInfrastructure) → compare b a = (compare a b).swap

/-! ### The comparison -/

namespace Verdict

/-- The verdict on two outcomes that are both evidence. -/
def ofEvidence : Outcome → Outcome → Verdict
  | .finished left, .finished right => ofMemories left right
  | .finished _, .failed errorClass message =>
    .finding (.inconsistentOutcome .b errorClass message)
  | .failed errorClass message, .finished _ =>
    .finding (.inconsistentOutcome .a errorClass message)
  | .failed aClass aMessage, .failed bClass bMessage =>
    if aClass = bClass then .pass
    else .finding (.divergentErrorClass aClass bClass aMessage bMessage)

variable {a b : Outcome}

private theorem compare_of_excuses_left (excuses : a.Excuses .a reason) :
    compare a b = .inconclusive reason := by
  unfold compare
  rw [Outcome.infrastructureFailure?_eq_some_iff.mpr excuses]
  rfl

private theorem compare_of_excuses_right (evidence : ¬a.IsInfrastructure)
    (excuses : b.Excuses .b reason) :
    compare a b = .inconclusive reason := by
  unfold compare
  rw [Outcome.infrastructureFailure?_eq_none_iff.mpr evidence,
    Outcome.infrastructureFailure?_eq_some_iff.mpr excuses]
  rfl

private theorem compare_of_evidence (left : ¬a.IsInfrastructure) (right : ¬b.IsInfrastructure) :
    compare a b = ofEvidence a b := by
  unfold compare
  rw [Outcome.infrastructureFailure?_eq_none_iff.mpr left,
    Outcome.infrastructureFailure?_eq_none_iff.mpr right]
  cases a <;> cases b <;> rfl

/-- All that a comparison does: it gives the reason of a side that is no evidence,
or looks at what both sides show. -/
theorem compare_cases (a b : Outcome) :
    (∃ reason, (a.Excuses .a reason ∨ ¬a.IsInfrastructure ∧ b.Excuses .b reason) ∧
        compare a b = .inconclusive reason) ∨
      (¬a.IsInfrastructure ∧ ¬b.IsInfrastructure ∧ compare a b = ofEvidence a b) := by
  by_cases left : a.IsInfrastructure
  · obtain ⟨reason, excuses⟩ := left.excuses .a
    exact .inl ⟨reason, .inl excuses, compare_of_excuses_left excuses⟩
  · by_cases right : b.IsInfrastructure
    · obtain ⟨reason, excuses⟩ := right.excuses .b
      exact .inl ⟨reason, .inr ⟨left, excuses⟩, compare_of_excuses_right left excuses⟩
    · exact .inr ⟨left, right, compare_of_evidence left right⟩

/-- Two memories pass or differ at a least address. -/
theorem ofMemories_cases (left right : Snapshot) :
    (left = right ∧ ofMemories left right = .pass) ∨
      ∃ address, IsLeast {address | left.get? address ≠ right.get? address} address ∧
        ofMemories left right = .finding (.memoryMismatch address (left.get? address)
          (right.get? address) (left.differing right).card) := by
  unfold ofMemories
  split
  · next none => exact .inl ⟨Snapshot.differences_eq_nil_iff.mp none, rfl⟩
  · next first rest found =>
      refine .inr ⟨first.address, Snapshot.isLeast_of_differences_eq_cons found, ?_⟩
      have member : first ∈ left.differences right := found ▸ List.mem_cons_self
      obtain ⟨leftEq, rightEq, -⟩ := Snapshot.mem_differences.mp member
      rw [← leftEq, ← rightEq, ← Snapshot.length_differences, found, List.length_cons]

/-- Evidence passes if it agrees and is a finding if it does not. -/
theorem ofEvidence_cases (a b : Outcome) :
    (a.Agrees b ∧ ofEvidence a b = .pass) ∨
      (¬a.Agrees b ∧ ∃ detail, ofEvidence a b = .finding detail) := by
  match a, b with
  | .finished left, .finished right =>
      rcases ofMemories_cases left right with ⟨rfl, pass⟩ | ⟨address, least, finding⟩
      · exact .inl ⟨.finished left, pass⟩
      · refine .inr ⟨?_, _, finding⟩
        rintro ⟨⟩
        exact least.1 rfl
  | .finished _, .failed _ _ => exact .inr ⟨nofun, _, rfl⟩
  | .failed _ _, .finished _ => exact .inr ⟨nofun, _, rfl⟩
  | .failed aClass aMessage, .failed bClass bMessage =>
      by_cases same : aClass = bClass
      · subst same
        exact .inl ⟨.failed _ _ _, if_pos rfl⟩
      · refine .inr ⟨?_, _, if_neg same⟩
        rintro ⟨⟩
        exact same rfl

private theorem compare_eq_inconclusive_iff :
    compare a b = .inconclusive reason ↔
      a.Excuses .a reason ∨ ¬a.IsInfrastructure ∧ b.Excuses .b reason := by
  constructor
  · intro verdict
    rcases compare_cases a b with ⟨reason', excuses, given⟩ | ⟨left, right, given⟩
    · cases verdict.symm.trans given
      exact excuses
    · rcases ofEvidence_cases a b with ⟨_, shown⟩ | ⟨_, detail, shown⟩
      · cases verdict.symm.trans (given.trans shown)
      · cases verdict.symm.trans (given.trans shown)
  · rintro (excuses | ⟨evidence, excuses⟩)
    · exact compare_of_excuses_left excuses
    · exact compare_of_excuses_right evidence excuses

private theorem exists_compare_eq_inconclusive_iff :
    (∃ reason, compare a b = .inconclusive reason) ↔ a.IsInfrastructure ∨ b.IsInfrastructure := by
  simp only [compare_eq_inconclusive_iff]
  constructor
  · rintro ⟨reason, excuses | ⟨_, excuses⟩⟩
    · exact .inl excuses.isInfrastructure
    · exact .inr excuses.isInfrastructure
  · intro infrastructure
    by_cases left : a.IsInfrastructure
    · obtain ⟨reason, excuses⟩ := left.excuses .a
      exact ⟨reason, .inl excuses⟩
    · obtain ⟨reason, excuses⟩ := (infrastructure.resolve_left left).excuses .b
      exact ⟨reason, .inr ⟨left, excuses⟩⟩

/-- A verdict that is not inconclusive is that of evidence. -/
theorem evidence_of_compare {verdict : Verdict} (given : compare a b = verdict)
    (conclusive : ∀ reason, verdict ≠ .inconclusive reason) :
    ¬a.IsInfrastructure ∧ ¬b.IsInfrastructure ∧ ofEvidence a b = verdict := by
  rcases compare_cases a b with ⟨reason, _, inconclusive⟩ | ⟨left, right, shown⟩
  · exact absurd (given.symm.trans inconclusive) (conclusive reason)
  · exact ⟨left, right, shown.symm.trans given⟩

private theorem compare_eq_pass_iff :
    compare a b = .pass ↔ ¬a.IsInfrastructure ∧ ¬b.IsInfrastructure ∧ a.Agrees b := by
  constructor
  · intro verdict
    obtain ⟨left, right, shown⟩ := evidence_of_compare verdict nofun
    rcases ofEvidence_cases a b with ⟨agrees, _⟩ | ⟨_, detail, finding⟩
    · exact ⟨left, right, agrees⟩
    · cases shown.symm.trans finding
  · rintro ⟨left, right, agrees⟩
    rw [compare_of_evidence left right]
    rcases ofEvidence_cases a b with ⟨_, pass⟩ | ⟨differ, _⟩
    · exact pass
    · exact absurd agrees differ

private theorem exists_compare_eq_finding_iff :
    (∃ detail, compare a b = .finding detail) ↔
      ¬a.IsInfrastructure ∧ ¬b.IsInfrastructure ∧ ¬a.Agrees b := by
  constructor
  · rintro ⟨detail, verdict⟩
    obtain ⟨left, right, shown⟩ := evidence_of_compare verdict nofun
    rcases ofEvidence_cases a b with ⟨_, pass⟩ | ⟨differ, _⟩
    · cases shown.symm.trans pass
    · exact ⟨left, right, differ⟩
  · rintro ⟨left, right, differ⟩
    rw [compare_of_evidence left right]
    rcases ofEvidence_cases a b with ⟨agrees, _⟩ | ⟨_, finding⟩
    · exact absurd agrees differ
    · exact finding

/-! ### Findings -/

/-- All that a finding can be: two memories that differ, one failed side, or two
failures of different classes. -/
inductive Exposes : Outcome → Outcome → Discrepancy Felt → Prop
  | memories {left right : Snapshot} {address : Address}
      (isLeast : IsLeast {address | left.get? address ≠ right.get? address} address) :
      Exposes (.finished left) (.finished right) (.memoryMismatch address (left.get? address)
        (right.get? address) (left.differing right).card)
  | failedA (errorClass : ErrorClass) (message : String) (memory : Snapshot) :
      Exposes (.failed errorClass message) (.finished memory)
        (.inconsistentOutcome .a errorClass message)
  | failedB (errorClass : ErrorClass) (message : String) (memory : Snapshot) :
      Exposes (.finished memory) (.failed errorClass message)
        (.inconsistentOutcome .b errorClass message)
  | classes {aClass bClass : ErrorClass} (differ : aClass ≠ bClass) (aMessage bMessage : String) :
      Exposes (.failed aClass aMessage) (.failed bClass bMessage)
        (.divergentErrorClass aClass bClass aMessage bMessage)

private theorem ofEvidence_eq_finding_iff {detail : Discrepancy Felt} :
    ofEvidence a b = .finding detail ↔ Exposes a b detail := by
  constructor
  · intro shown
    match a, b with
    | .finished left, .finished right =>
        rcases ofMemories_cases left right with ⟨_, pass⟩ | ⟨address, isLeast, finding⟩
        · cases shown.symm.trans pass
        · cases shown.symm.trans finding
          exact .memories isLeast
    | .finished memory, .failed errorClass message =>
        cases shown
        exact .failedB errorClass message memory
    | .failed errorClass message, .finished memory =>
        cases shown
        exact .failedA errorClass message memory
    | .failed aClass aMessage, .failed bClass bMessage =>
        rw [ofEvidence] at shown
        split at shown
        · cases shown
        · next differ =>
            cases shown
            exact .classes differ aMessage bMessage
  · intro exposes
    cases exposes with
    | @memories left right address isLeast =>
        rcases ofMemories_cases left right with ⟨rfl, _⟩ | ⟨address', isLeast', finding⟩
        · exact absurd rfl isLeast.1
        · have same : address = address' :=
            UInt64.le_antisymm (isLeast.2 isLeast'.1) (isLeast'.2 isLeast.1)
          exact same ▸ finding
    | failedA => rfl
    | failedB => rfl
    | classes differ => exact if_neg differ

/-- A finding is what two sides that are evidence expose. -/
theorem compare_eq_finding_iff {detail : Discrepancy Felt} :
    compare a b = .finding detail ↔
      ¬a.IsInfrastructure ∧ ¬b.IsInfrastructure ∧ Exposes a b detail := by
  rw [← ofEvidence_eq_finding_iff]
  constructor
  · intro verdict
    exact evidence_of_compare verdict nofun
  · rintro ⟨left, right, shown⟩
    exact (compare_of_evidence left right).trans shown

variable {address : Address} {x y : Option Felt} {count : Nat} {failed : Slot}
  {errorClass aClass bClass : ErrorClass} {message aMessage bMessage : String}

private theorem compare_eq_memoryMismatch_iff :
    compare a b = .finding (.memoryMismatch address x y count) ↔
      ∃ left right, a = .finished left ∧ b = .finished right ∧
        IsLeast {address | left.get? address ≠ right.get? address} address ∧
        x = left.get? address ∧ y = right.get? address ∧ count = (left.differing right).card := by
  rw [compare_eq_finding_iff]
  constructor
  · rintro ⟨-, -, @⟨left, right, _, isLeast⟩⟩
    exact ⟨left, right, rfl, rfl, isLeast, rfl, rfl, rfl⟩
  · rintro ⟨left, right, rfl, rfl, isLeast, rfl, rfl, rfl⟩
    exact ⟨Outcome.not_isInfrastructure_finished left, Outcome.not_isInfrastructure_finished right,
      .memories isLeast⟩

private theorem compare_eq_inconsistentOutcome_iff :
    compare a b = .finding (.inconsistentOutcome failed errorClass message) ↔
      ¬a.IsInfrastructure ∧ ¬b.IsInfrastructure ∧
        (failed = .a ∧ a = .failed errorClass message ∧ (∃ memory, b = .finished memory) ∨
          failed = .b ∧ b = .failed errorClass message ∧ ∃ memory, a = .finished memory) := by
  rw [compare_eq_finding_iff]
  refine and_congr_right fun _ => and_congr_right fun _ => ⟨?_, ?_⟩
  · intro exposes
    cases exposes with
    | failedA _ _ memory => exact .inl ⟨rfl, rfl, memory, rfl⟩
    | failedB _ _ memory => exact .inr ⟨rfl, rfl, memory, rfl⟩
  · rintro (⟨rfl, rfl, memory, rfl⟩ | ⟨rfl, rfl, memory, rfl⟩)
    · exact .failedA errorClass message memory
    · exact .failedB errorClass message memory

private theorem compare_eq_divergentErrorClass_iff :
    compare a b = .finding (.divergentErrorClass aClass bClass aMessage bMessage) ↔
      ¬a.IsInfrastructure ∧ ¬b.IsInfrastructure ∧
        a = .failed aClass aMessage ∧ b = .failed bClass bMessage ∧ aClass ≠ bClass := by
  rw [compare_eq_finding_iff]
  refine and_congr_right fun _ => and_congr_right fun _ => ⟨?_, ?_⟩
  · intro exposes
    cases exposes with
    | classes differ => exact ⟨rfl, rfl, differ⟩
  · rintro ⟨rfl, rfl, differ⟩
    exact .classes differ aMessage bMessage

/-- A comparison never blames the compiler. -/
theorem compare_ne_compileRejected : compare a b ≠ .finding (.compileRejected message) := by
  intro verdict
  obtain ⟨-, -, exposes⟩ := compare_eq_finding_iff.mp verdict
  cases exposes

/-! ### Both sides exchanged -/

private theorem ofMemories_swap (left right : Snapshot) :
    ofMemories right left = (ofMemories left right).swap := by
  rcases ofMemories_cases left right with ⟨rfl, pass⟩ | ⟨address, isLeast, finding⟩
  · rw [pass]
    rfl
  · rcases ofMemories_cases right left with ⟨rfl, _⟩ | ⟨address', isLeast', finding'⟩
    · exact absurd rfl isLeast.1
    · have same : address = address' := UInt64.le_antisymm
        (isLeast.2 (Ne.symm isLeast'.1)) (isLeast'.2 (Ne.symm isLeast.1))
      have card : right.differing left = left.differing right := by
        ext address
        rw [Snapshot.mem_differing, Snapshot.mem_differing]
        exact ne_comm
      rw [finding, finding', same, card]
      rfl

private theorem ofEvidence_swap (a b : Outcome) : ofEvidence b a = (ofEvidence a b).swap := by
  match a, b with
  | .finished left, .finished right => exact ofMemories_swap left right
  | .finished _, .failed _ _ => rfl
  | .failed _ _, .finished _ => rfl
  | .failed aClass _, .failed bClass _ =>
      by_cases same : aClass = bClass
      · rw [ofEvidence, ofEvidence, if_pos same, if_pos same.symm]
        rfl
      · rw [ofEvidence, ofEvidence, if_neg same, if_neg (Ne.symm same)]
        rfl

private theorem compare_swap (single : ¬(a.IsInfrastructure ∧ b.IsInfrastructure)) :
    compare b a = (compare a b).swap := by
  by_cases left : a.IsInfrastructure
  · have right : ¬b.IsInfrastructure := fun right => single ⟨left, right⟩
    obtain ⟨reason, excuses⟩ := left.excuses .a
    rw [compare_of_excuses_left excuses, compare_of_excuses_right right excuses.swap]
    rfl
  · by_cases right : b.IsInfrastructure
    · obtain ⟨reason, excuses⟩ := right.excuses .b
      rw [compare_of_excuses_right left excuses, compare_of_excuses_left excuses.swap]
      rfl
    · rw [compare_of_evidence left right, compare_of_evidence right left, ofEvidence_swap]

/-- **The comparison of outcomes is the equivalence rule.** -/
theorem equivalenceRule_compare : EquivalenceRule Verdict.compare where
  inconclusive _ _ := exists_compare_eq_inconclusive_iff
  reason _ _ _ := compare_eq_inconclusive_iff
  pass _ _ := compare_eq_pass_iff
  finding _ _ := exists_compare_eq_finding_iff
  memoryMismatch _ _ _ _ _ _ := compare_eq_memoryMismatch_iff
  mismatch_ne a b address x y count verdict := by
    obtain ⟨left, right, -, -, isLeast, rfl, rfl, rfl⟩ := compare_eq_memoryMismatch_iff.mp verdict
    exact ⟨isLeast.1, Finset.card_pos.mpr ⟨address, Snapshot.mem_differing.mpr isLeast.1⟩⟩
  inconsistentOutcome _ _ _ _ _ := compare_eq_inconsistentOutcome_iff
  divergentErrorClass _ _ _ _ _ _ := compare_eq_divergentErrorClass_iff
  compileRejected _ _ _ := compare_ne_compileRejected
  self a detail verdict := by
    obtain ⟨-, -, differ⟩ := exists_compare_eq_finding_iff.mp ⟨detail, verdict⟩
    exact differ (.refl a)
  swap _ _ := compare_swap

end Verdict

end HintFuzz
