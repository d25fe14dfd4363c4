import HintFuzz.Proofs.Cairo.Replacement
import HintFuzz.Proofs.Monad.Steps
import HintFuzz.Proofs.Trial.Plan
import HintFuzz.Proofs.Values.Assignment
import HintFuzz.Proofs.Wrapper.Synthesis

/-!
# Values for a wrapper

`Wrapper.Instantiates` says what a list of values makes of a wrapper.  A value for a placeholder
that the wrapper does not have is a fault, whatever is missing; only then the least placeholder
without a value is one; and the text is the program with the last values in place of the
placeholders.  Instantiation comes to just this (`Hint.instantiationRule`).
-/

namespace HintFuzz

open Cairo

/-- What values are to make of a wrapper. -/
inductive Wrapper.Instantiates (wrapper : Wrapper) (values : List Assigned) :
    Except SynthesisFault String → Prop
  /-- Of the values for other placeholders the first one counts. -/
  | unknown {before after : List Assigned} {stray : Assigned}
      (split : values = before ++ stray :: after)
      (known : ∀ earlier ∈ before, earlier.placeholder < wrapper.placeholders.length)
      (beyond : wrapper.placeholders.length ≤ stray.placeholder) :
      Instantiates wrapper values (.error (.unknownPlaceholder stray.placeholder))
  /-- Of the placeholders without a value the least one counts. -/
  | unbound {id : PlaceholderId}
      (known : ∀ assigned ∈ values, assigned.placeholder < wrapper.placeholders.length)
      (own : id < wrapper.placeholders.length)
      (missing : ∀ assigned ∈ values, assigned.placeholder ≠ id)
      (least : ∀ smaller < id, ∃ assigned ∈ values, assigned.placeholder = smaller) :
      Instantiates wrapper values (.error (.unboundPlaceholder id))
  | written {value : PlaceholderId → Nat} {text : String}
      (known : ∀ assigned ∈ values, assigned.placeholder < wrapper.placeholders.length)
      (last : ∀ id < wrapper.placeholders.length, GivesLast values id (value id))
      (rendered : (wrapper.program.withNames fun id => toString (value id)).render .tokens =
        .ok text) :
      Instantiates wrapper values (.ok text)

/-- What instantiation makes of a list of values, and of its reorderings. -/
structure Wrapper.InstantiationRule (wrapper : Wrapper) (values : List Assigned) : Prop where
  outcome_iff : ∀ result, wrapper.instantiate values = result ↔ wrapper.Instantiates values result
  succeeds_iff : (∃ text, wrapper.instantiate values = .ok text) ↔
    (∀ assigned ∈ values, assigned.placeholder < wrapper.placeholders.length) ∧
      ∀ id < wrapper.placeholders.length, ∃ assigned ∈ values, assigned.placeholder = id
  /-- A text depends on the last value of each placeholder alone. -/
  last : ∀ text, wrapper.instantiate values = .ok text → ∀ other : List Assigned,
    (∀ id value, GivesLast other id value ↔ GivesLast values id value) →
      wrapper.instantiate other = .ok text
  /-- Values may be mixed as long as those of one placeholder stay in their order. -/
  reordered : ∀ text, wrapper.instantiate values = .ok text → ∀ other : List Assigned,
    (∀ id : PlaceholderId, other.filter (fun assigned => assigned.placeholder = id) =
      values.filter fun assigned => assigned.placeholder = id) →
      wrapper.instantiate other = .ok text

namespace Wrapper

variable {wrapper : Wrapper} {values other : List Assigned} {result : Except SynthesisFault String}
  {text : String}

/-! ### Outcomes -/

private theorem Numbered.not_contains_iff (numbered : wrapper.Numbered) {id : PlaceholderId} :
    (!wrapper.placeholderIds.contains id) = true ↔ wrapper.placeholders.length ≤ id := by
  simp [numbered.ids]

private theorem Numbered.mem_placeholders_iff (numbered : wrapper.Numbered) {id : PlaceholderId} :
    id ∈ wrapper.program.placeholders ↔ id < wrapper.placeholders.length := by
  rw [numbered.tree, numbered.ids, List.mem_range]

/-- The value that instantiation refuses is the first one for another placeholder. -/
theorem Numbered.find?_eq_some_iff (numbered : wrapper.Numbered) {stray : Assigned} :
    (values.find? fun assigned => !wrapper.placeholderIds.contains assigned.placeholder) =
        some stray ↔
      wrapper.placeholders.length ≤ stray.placeholder ∧
        ∃ before after, values = before ++ stray :: after ∧
          ∀ earlier ∈ before, earlier.placeholder < wrapper.placeholders.length := by
  simp only [List.find?_eq_some_iff_append, Bool.not_eq_true', ← Bool.not_eq_true,
    numbered.not_contains_iff, Nat.not_le]

private theorem Numbered.find?_eq_none_iff (numbered : wrapper.Numbered) :
    (values.find? fun assigned => !wrapper.placeholderIds.contains assigned.placeholder) = none ↔
      ∀ assigned ∈ values, assigned.placeholder < wrapper.placeholders.length := by
  simp only [List.find?_eq_none, numbered.not_contains_iff, Nat.not_le]

/-- The placeholders of a program are ascending, so the first one without a value is the least. -/
theorem Numbered.render_eq_error_iff (numbered : wrapper.Numbered) {id : PlaceholderId} :
    wrapper.program.render (.ofValues values) = .error id ↔
      id < wrapper.placeholders.length ∧ (∀ assigned ∈ values, assigned.placeholder ≠ id) ∧
        ∀ smaller < id, ∃ assigned ∈ values, assigned.placeholder = smaller := by
  have unbound_iff (id : PlaceholderId) : (Binding.ofValues values id).isNone = true ↔
      ∀ assigned ∈ values, assigned.placeholder ≠ id := by
    rw [Option.isNone_iff_eq_none, Binding.ofValues_eq_none_iff, valueOf?_eq_none_iff]
  rw [Program.render_eq_error_iff, numbered.tree, numbered.ids, List.find?_range_eq_some]
  simp only [Bool.not_eq_true', ← Bool.not_eq_true, unbound_iff, List.mem_range]
  constructor
  · rintro ⟨missing, own, least⟩
    refine ⟨own, missing, fun smaller below => ?_⟩
    simpa using least smaller below
  · rintro ⟨own, missing, least⟩
    refine ⟨missing, own, fun smaller below => ?_⟩
    simpa using least smaller below

private theorem Numbered.render_eq_ok_of_givesLast (numbered : wrapper.Numbered)
    {value : PlaceholderId → Nat}
    (last : ∀ id < wrapper.placeholders.length, GivesLast values id (value id)) :
    wrapper.program.render (.ofValues values) =
      (wrapper.program.withNames fun id => toString (value id)).render .tokens := by
  refine Program.render_eq_of_forall fun id member => ?_
  have given := valueOf?_eq_some_iff.mpr (last id (numbered.mem_placeholders_iff.mp member))
  rw [Binding.ofValues, given, Option.map_some]

/-- Where a program can be written, each placeholder has a value. -/
theorem Numbered.bound_of_render (numbered : wrapper.Numbered)
    (written : wrapper.program.render (.ofValues values) = .ok text) :
    ∀ id < wrapper.placeholders.length, ∃ assigned ∈ values, assigned.placeholder = id := by
  by_contra unbound
  push Not at unbound
  obtain ⟨id, own, missing⟩ := unbound
  obtain ⟨first, failed⟩ := Program.exists_render_eq_error_iff.mpr
    ⟨id, numbered.mem_placeholders_iff.mpr own,
      Binding.ofValues_eq_none_iff.mpr (valueOf?_eq_none_iff.mpr missing)⟩
  rw [written] at failed
  cases failed

private theorem exists_givesLast {count : Nat}
    (bound : ∀ id < count, ∃ assigned ∈ values, assigned.placeholder = id) :
    ∃ value : PlaceholderId → Nat, ∀ id < count, GivesLast values id (value id) := by
  have given : ∀ id < count, ∃ value, GivesLast values id value :=
    fun id below => exists_givesLast_iff.mpr (bound id below)
  choose! value last using given
  exact ⟨value, last⟩

/-- Writing a numbered wrapper with values does what is said of it. -/
theorem Numbered.instantiates (numbered : wrapper.Numbered) (values : List Assigned) :
    wrapper.Instantiates values (wrapper.instantiate values) := by
  unfold instantiate
  split
  · next stray found =>
      obtain ⟨beyond, before, after, split, known⟩ := numbered.find?_eq_some_iff.mp found
      exact .unknown split known beyond
  · next found =>
      have known := numbered.find?_eq_none_iff.mp found
      split
      · next id failed =>
          obtain ⟨own, missing, least⟩ := numbered.render_eq_error_iff.mp failed
          exact .unbound known own missing least
      · next text written =>
          obtain ⟨value, last⟩ := exists_givesLast (numbered.bound_of_render written)
          exact .written known last (numbered.render_eq_ok_of_givesLast last ▸ written)

private theorem Instantiates.instantiate_eq (numbered : wrapper.Numbered)
    (instantiates : wrapper.Instantiates values result) : wrapper.instantiate values = result := by
  unfold instantiate
  cases instantiates with
  | unknown split known beyond =>
      rw [numbered.find?_eq_some_iff.mpr ⟨beyond, _, _, split, known⟩]
  | unbound known own missing least =>
      rw [numbered.find?_eq_none_iff.mpr known,
        numbered.render_eq_error_iff.mpr ⟨own, missing, least⟩]
  | written known last rendered =>
      rw [numbered.find?_eq_none_iff.mpr known, numbered.render_eq_ok_of_givesLast last, rendered]

/-- The three outcomes exclude one another, and there is no other one. -/
theorem Numbered.instantiate_eq_iff (numbered : wrapper.Numbered) :
    wrapper.instantiate values = result ↔ wrapper.Instantiates values result := by
  constructor
  · rintro rfl
    exact numbered.instantiates values
  · exact Instantiates.instantiate_eq numbered

/-- It succeeds if the values are those of its placeholders and none of these is left out. -/
theorem Numbered.exists_instantiate_eq_ok_iff (numbered : wrapper.Numbered) :
    (∃ text, wrapper.instantiate values = .ok text) ↔
      (∀ assigned ∈ values, assigned.placeholder < wrapper.placeholders.length) ∧
        ∀ id < wrapper.placeholders.length, ∃ assigned ∈ values, assigned.placeholder = id := by
  simp only [numbered.instantiate_eq_iff]
  constructor
  · rintro ⟨text, ⟨⟩⟩
    next value known last rendered =>
      exact ⟨known, fun id own => exists_givesLast_iff.mp ⟨value id, last id own⟩⟩
  · rintro ⟨known, bound⟩
    obtain ⟨value, last⟩ := exists_givesLast bound
    obtain ⟨text, rendered⟩ : ∃ text,
        (wrapper.program.withNames fun id => toString (value id)).render .tokens = .ok text :=
      Program.exists_render fun _ _ => rfl
    exact ⟨text, .written known last rendered⟩

/-! ### Reorderings -/

/-- A text depends on the last values alone. -/
theorem Instantiates.of_givesLast_iff (written : wrapper.Instantiates values (.ok text))
    (same : ∀ id value, GivesLast other id value ↔ GivesLast values id value) :
    wrapper.Instantiates other (.ok text) := by
  cases written with
  | @written value _ known last rendered =>
      refine .written (fun assigned member => ?_) (fun id own => ?_) rendered
      · -- What the other list names has a last value there, hence here as well.
        obtain ⟨value, given⟩ := exists_givesLast_iff.mpr ⟨assigned, member, rfl⟩
        obtain ⟨own, ownMember, named⟩ := exists_givesLast_iff.mp ⟨value, (same _ _).mp given⟩
        exact named ▸ known own ownMember
      · exact (same id (value id)).mpr (last id own)

private theorem givesLast_iff_of_filter_eq
    (same : ∀ id : PlaceholderId, other.filter (fun assigned => assigned.placeholder = id) =
      values.filter fun assigned => assigned.placeholder = id) (id : PlaceholderId) (value : Nat) :
    GivesLast other id value ↔ GivesLast values id value := by
  rw [← valueOf?_eq_some_iff, ← valueOf?_eq_some_iff, ← valueOf?_filter, same id, valueOf?_filter]

end Wrapper

/-- **Instantiation names the first stray value, then the least placeholder without a value, and
otherwise writes the last values.** -/
theorem Hint.instantiationRule {hint : Hint} {signature : Signature} {wrapper : Wrapper}
    (built : hint.synthesize signature = .ok wrapper) (values : List Assigned) :
    wrapper.InstantiationRule values := by
  have numbered := Hint.numbered_of_synthesize built
  have last (text : String) (written : wrapper.instantiate values = .ok text)
      (other : List Assigned)
      (same : ∀ id value, GivesLast other id value ↔ GivesLast values id value) :
      wrapper.instantiate other = .ok text := by
    rw [numbered.instantiate_eq_iff] at written ⊢
    exact written.of_givesLast_iff same
  constructor
  · exact fun result => numbered.instantiate_eq_iff
  · exact numbered.exists_instantiate_eq_ok_iff
  · exact last
  · intro text written other same
    exact last text written other (Wrapper.givesLast_iff_of_filter_eq same)

/-- A value that a later one replaces. -/
theorem Hint.instantiationRule_replaced :
    ∃ signature wrapper,
      Hint.analyze ⟨3, ["assert ids.high < ids.low"]⟩ = .ok signature ∧
      Hint.synthesize ⟨3, ["assert ids.high < ids.low"]⟩ signature = .ok wrapper ∧
      wrapper.InstantiationRule [⟨0, 7⟩, ⟨1, 12⟩, ⟨0, 10⟩] := by
  have succeeds : (Hint.prepare ⟨3, ["assert ids.high < ids.low"]⟩).isOk = true := by
    decide +kernel
  obtain ⟨wrapper, prepared⟩ := exists_ok_of_isOk succeeds
  obtain ⟨signature, analyzed, built⟩ := Hint.prepare_ok prepared
  exact ⟨signature, wrapper, analyzed, built, Hint.instantiationRule built _⟩

end HintFuzz
