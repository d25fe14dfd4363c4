import HintFuzz.Proofs.Hint.Analysis
import HintFuzz.Proofs.Wrapper.Fitting
import HintFuzz.Proofs.Wrapper.Text

/-!
# Signatures without a wrapper

A signature has no wrapper exactly if one of its roots is unsupported, and the first such root by
name is at fault (`Hint.refusalRule`).  What is said of it depends on the order in which a root is
looked at: its name first, then its type, then whether a felt of this type can be returned.
-/

namespace HintFuzz

open Cairo Wrapper

/-- A name that already means something in a wrapper program. -/
def Wrapper.Reserved (name : String) : Prop :=
  name ∈ keywords ∨ (∃ struct : Known, name = struct.name) ∨
    generatedStem.toList <+: name.toList ∨ name = entryFunction ∨ name = hintFunction

/-- A root that no wrapper can have. -/
def RootVariable.Unsupported (root : RootVariable) : Prop :=
  Reserved root.name ∨
    (∃ members, root.shape = .generated members ∧ ∃ member ∈ members, Reserved member) ∨
    (∃ detail, root.shape = .unresolvable detail) ∨
    root.role = .output ∧ ∃ exact, root.shape = .known .felt exact

/-- What a root that is unsupported is at fault for. -/
inductive RootVariable.AtFault (root : RootVariable) (hint : HintId) : SynthesisFault → Prop
  | name (reserved : Reserved root.name) : AtFault root hint (.reservedIdentifier hint root.name)
  /-- Of several reserved members the least is named. -/
  | member {members : List String} {member : String} (free : ¬Reserved root.name)
      (shape : root.shape = .generated members) (among : member ∈ members)
      (reserved : Reserved member)
      (least : ∀ other ∈ members, Reserved other → other = member ∨ member < other) :
      AtFault root hint (.reservedIdentifier hint member)
  | type {detail : String} (free : ¬Reserved root.name)
      (shape : root.shape = .unresolvable detail) :
      AtFault root hint (.unresolvableType hint root.name detail)
  | output {exact : Bool} (free : ¬Reserved root.name) (shape : root.shape = .known .felt exact)
      (output : root.role = .output) : AtFault root hint (.unreturnableOutput hint root.name)

/-! ### One root -/

private theorem Wrapper.isReserved_iff {name : String} :
    isReserved name = true ↔ Reserved name := by
  have vocabulary : name ∈ Known.all.map Known.name ↔ ∃ struct : Known, name = struct.name := by
    rw [List.mem_map]
    constructor
    · rintro ⟨struct, -, same⟩
      exact ⟨struct, same.symm⟩
    · rintro ⟨struct, same⟩
      exact ⟨struct, by cases struct <;> decide, same.symm⟩
  simp only [isReserved, Reserved, Bool.or_eq_true, decide_eq_true_eq, List.contains_iff_mem,
    List.isPrefixOf_iff_prefix, vocabulary, or_assoc]

section Root

variable {root : RootVariable} {hint : HintId} {fault : SynthesisFault}

/-- The members of a generated struct are ascending, so the first reserved one is the least. -/
theorem RootVariable.find?_isReserved_iff {members : List String} {member : String}
    (shape : root.shape = .generated members) :
    members.find? isReserved = some member ↔ member ∈ members ∧ Reserved member ∧
      ∀ other ∈ members, Reserved other → other = member ∨ member < other := by
  have sorted : members.Pairwise (· < ·) := by
    rw [eq_fieldsAt_of_shape_generated shape]
    exact pairwise_ascending _
  simp only [find?_eq_some_iff_of_pairwise sorted, isReserved_iff]

/-- What a root is at fault for is found: nothing that is looked at before keeps it back. -/
theorem RootVariable.AtFault.found (atFault : root.AtFault hint fault) :
    rootFault? hint root = some fault := by
  unfold rootFault?
  cases atFault with
  | name reserved => rw [if_pos (isReserved_iff.mpr reserved)]
  | member free shape among reserved least =>
      have first := (root.find?_isReserved_iff shape).mpr ⟨among, reserved, least⟩
      rw [if_neg (mt isReserved_iff.mp free), shape]
      exact congrArg (Option.map _) first
  | type free shape => rw [if_neg (mt isReserved_iff.mp free), shape]
  | output free shape output =>
      rw [if_neg (mt isReserved_iff.mp free), shape]
      exact if_pos ⟨output, rfl⟩

private theorem RootVariable.atFault_of_found (found : rootFault? hint root = some fault) :
    root.AtFault hint fault := by
  unfold rootFault? at found
  split at found
  · next taken =>
      cases found
      exact .name (isReserved_iff.mp taken)
  · next free =>
      have free : ¬Reserved root.name := mt isReserved_iff.mpr free
      split at found
      · next members shape =>
          obtain ⟨member, first, rfl⟩ := Option.map_eq_some_iff.mp found
          obtain ⟨among, reserved, least⟩ := (root.find?_isReserved_iff shape).mp first
          exact .member free shape among reserved least
      · next detail shape =>
          cases found
          exact .type free shape
      · next type exact shape =>
          split at found
          · next returned =>
              obtain ⟨output, rfl⟩ := returned
              cases found
              exact .output free shape output
          · cases found

/-- The checks of a root find what it is at fault for. -/
theorem Wrapper.rootFault?_eq_some_iff :
    rootFault? hint root = some fault ↔ root.AtFault hint fault :=
  ⟨RootVariable.atFault_of_found, RootVariable.AtFault.found⟩

/-- A root is at fault for something just if it is unsupported. -/
theorem RootVariable.exists_atFault_iff : (∃ fault, root.AtFault hint fault) ↔ root.Unsupported := by
  constructor
  · rintro ⟨fault, atFault⟩
    cases atFault with
    | name reserved => exact .inl reserved
    | member _ shape among reserved => exact .inr (.inl ⟨_, shape, _, among, reserved⟩)
    | type _ shape => exact .inr (.inr (.inl ⟨_, shape⟩))
    | output _ shape output => exact .inr (.inr (.inr ⟨output, _, shape⟩))
  · intro unsupported
    by_cases reserved : Reserved root.name
    · exact ⟨_, .name reserved⟩
    · rcases unsupported with taken | ⟨members, shape, member, among, taken⟩ | ⟨detail, shape⟩ |
        ⟨output, exact, shape⟩
      · exact absurd taken reserved
      · have found : (members.find? isReserved).isSome = true :=
          List.find?_isSome.mpr ⟨member, among, isReserved_iff.mpr taken⟩
        obtain ⟨first, found⟩ := Option.isSome_iff_exists.mp found
        obtain ⟨among, taken, least⟩ := (root.find?_isReserved_iff shape).mp found
        exact ⟨_, .member reserved shape among taken least⟩
      · exact ⟨_, .type reserved shape⟩
      · exact ⟨_, .output reserved shape output⟩

private theorem Wrapper.rootFault?_eq_none_iff :
    rootFault? hint root = none ↔ ¬root.Unsupported := by
  have found_iff : (∃ fault, root.AtFault hint fault) ↔ root.Unsupported := root.exists_atFault_iff
  rw [← found_iff, Option.eq_none_iff_forall_ne_some, not_exists]
  simp only [ne_eq, rootFault?_eq_some_iff]

end Root

/-! ### Signatures -/

/-- How synthesis treats a signature, around the lines of any hint. -/
structure Hint.RefusalRule (hint : Hint) (signature : Signature) : Prop where
  ordered : (signature.roots.map RootVariable.name).Pairwise (· < ·)
  fails_iff : (∃ fault, hint.synthesize signature = .error fault) ↔
    ∃ root ∈ signature.roots, root.Unsupported
  fault_iff : ∀ fault, hint.synthesize signature = .error fault ↔
    ∃ before root after, signature.roots = before ++ root :: after ∧
      (∀ earlier ∈ before, ¬earlier.Unsupported) ∧ root.AtFault signature.hint fault
  succeeds : (∀ root ∈ signature.roots, ¬root.Unsupported) →
    ∃ wrapper, hint.synthesize signature = .ok wrapper ∧ (wrapper.confidence = .exact ↔
      ∀ root ∈ signature.roots, ∃ type, root.shape = .known type true)

/-- The first unsupported root is at fault. -/
theorem Wrapper.fault?_eq_some_iff {signature : Signature} {fault : SynthesisFault} :
    fault? signature = some fault ↔
      ∃ before root after, signature.roots = before ++ root :: after ∧
        (∀ earlier ∈ before, ¬earlier.Unsupported) ∧ root.AtFault signature.hint fault := by
  simp only [fault?, List.findSome?_eq_some_iff, rootFault?_eq_some_iff, rootFault?_eq_none_iff]
  constructor
  · rintro ⟨before, root, after, split, atFault, supported⟩
    exact ⟨before, root, after, split, supported, atFault⟩
  · rintro ⟨before, root, after, split, supported, atFault⟩
    exact ⟨before, root, after, split, atFault, supported⟩

private theorem Wrapper.fault?_eq_none_iff {signature : Signature} :
    fault? signature = none ↔ ∀ root ∈ signature.roots, ¬root.Unsupported := by
  simp only [fault?, List.findSome?_eq_none_iff, rootFault?_eq_none_iff]

/-- **Synthesis refuses just the signatures with an unsupported root**, and names the first one. -/
theorem Hint.refusalRule {source : Hint} {signature : Signature}
    (analyzed : source.analyze = .ok signature) (hint : Hint) : hint.RefusalRule signature where
  ordered := by
    rw [(Hint.analyze_ok analyzed).2]
    exact pairwise_names_allRoots source
  fails_iff := by
    simp only [synthesize_eq_error_iff, ← Option.isSome_iff_exists]
    rw [← not_iff_not, Option.not_isSome_iff_eq_none, fault?_eq_none_iff]
    push Not
    rfl
  fault_iff fault := by
    rw [synthesize_eq_error_iff, fault?_eq_some_iff]
  succeeds supported := by
    cases built : hint.synthesize signature with
    | error fault =>
        have faulty := synthesize_eq_error_iff.mp built
        rw [fault?_eq_none_iff.mpr supported] at faulty
        cases faulty
    | ok wrapper =>
        refine ⟨wrapper, rfl, ?_⟩
        rw [(Hint.synthesize_confidence built).1, confidenceOf_eq_exact_iff]

/-- A hint with two reserved members, a felt to return and a root too deep for a type. -/
theorem Hint.refusalRule_crowded :
    ∃ signature,
      Hint.analyze ⟨7, ["ids.deep = ids.flag.a.b.c", "ids.box.main = ids.box.let"]⟩ =
        .ok signature ∧
      Hint.RefusalRule ⟨7, ["ids.deep = ids.flag.a.b.c", "ids.box.main = ids.box.let"]⟩
        signature := by
  have analyzed : Hint.analyze ⟨7, ["ids.deep = ids.flag.a.b.c", "ids.box.main = ids.box.let"]⟩ =
      .ok ⟨7, [⟨"box", .output, [["let"], ["main"]], false⟩, ⟨"deep", .output, [[]], false⟩,
        ⟨"flag", .input, [["a", "b", "c"]], false⟩]⟩ := by
    decide +kernel
  exact ⟨_, analyzed, Hint.refusalRule analyzed _⟩

end HintFuzz
