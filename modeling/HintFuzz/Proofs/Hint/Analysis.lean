import HintFuzz.Proofs.Hint.Signature
import Mathlib.Data.List.Sort

/-!
# What analysis finds

`Hint.Finds` says what a hint's lines make of its analysis, reference by reference: which roots
there are, with which field paths, which of them are written and which stand among the arguments
of a call, and which root a fault names.  It settles the outcome, and analysis comes to it
(`Hint.analyze_eq_iff`).
-/

namespace HintFuzz.Hint

/-! ### What lines show -/

/-- Lines, each scanned from the bracket depth that the one before it closed with. -/
def scanned (depth : Nat) : List String → List Line
  | [] => []
  | text :: rest =>
    let line := Line.scan depth text
    line :: scanned line.closingDepth rest

/-- A hint shows a reference on one of its lines. -/
structure Shows (hint : Hint) (line : Line) (reference : Reference) : Prop where
  onLine : line ∈ scanned 0 hint.lines
  shown : reference ∈ line.references

/-- A hint refers to a root with a field path. -/
def Refers (hint : Hint) (name : String) (path : List String) : Prop :=
  ∃ line reference, hint.Shows line reference ∧ reference.root = name ∧ reference.path = path

/-- A reference to the root ends before the assignment operator of its own line starts. -/
def Writes (hint : Hint) (name : String) : Prop :=
  ∃ line reference, hint.Shows line reference ∧ reference.root = name ∧
    ∃ operator, line.operator? = some operator ∧ reference.span.stop ≤ operator.start

/-- A reference to the root lies among the arguments of a call on its own line. -/
def Packs (hint : Hint) (name : String) : Prop :=
  ∃ line reference, hint.Shows line reference ∧ reference.root = name ∧
    ∃ arguments ∈ line.packs,
      arguments.start ≤ reference.span.start ∧ reference.span.stop ≤ arguments.stop

/-- A hint refers to the root with field paths of two lengths. -/
def Varies (hint : Hint) (name : String) : Prop :=
  ∃ path other, hint.Refers name path ∧ hint.Refers name other ∧ path.length ≠ other.length

/-- A root variable says of its name what the hint shows. -/
structure Describes (hint : Hint) (root : RootVariable) : Prop where
  ascending : root.paths.Pairwise (· < ·)
  paths : ∀ path, path ∈ root.paths ↔ hint.Refers root.name path
  nonempty : root.paths ≠ []
  uniform : ∀ path ∈ root.paths, ∀ other ∈ root.paths, path.length = other.length
  role : root.role = .output ↔ hint.Writes root.name
  packed : root.packed = true ↔ hint.Packs root.name

/-- What the analysis of a hint is to find. -/
inductive Finds (hint : Hint) : Except AnalysisFault Signature → Prop
  | nothing (silent : ∀ name path, ¬hint.Refers name path) :
      Finds hint (.error (.noReferences hint.id))
  /-- Of the roots with field paths of several lengths the first by name counts. -/
  | uneven {name : String} {lengths : List Nat} (varies : hint.Varies name)
      (least : ∀ other, hint.Varies other → ¬other < name)
      (ascending : lengths.Pairwise (· < ·))
      (all : ∀ length, length ∈ lengths ↔ ∃ path, hint.Refers name path ∧ path.length = length) :
      Finds hint (.error (.inconsistentArity hint.id name lengths))
  | roots {roots : List RootVariable} (some : ∃ name path, hint.Refers name path)
      (even : ∀ name, ¬hint.Varies name)
      (ascending : (roots.map RootVariable.name).Pairwise (· < ·))
      (names : ∀ name, name ∈ roots.map RootVariable.name ↔ ∃ path, hint.Refers name path)
      (describes : ∀ root ∈ roots, hint.Describes root) :
      Finds hint (.ok ⟨hint.id, roots⟩)

variable {hint : Hint} {name : String} {path : List String}

/-! ### Occurrences -/

private theorem occurrences_eq (depth : Nat) (lines : List String) :
    occurrences depth lines = (scanned depth lines).flatMap Line.occurrences := by
  induction lines generalizing depth with
  | nil => rfl
  | cons text rest ih => rw [occurrences, scanned, List.flatMap_cons, ih]

/-- What holds of an occurrence on the lines holds of a reference that they show. -/
theorem exists_mem_occurrences_iff {p : Occurrence → Prop} :
    (∃ occurrence ∈ occurrences 0 hint.lines, p occurrence) ↔
      ∃ line reference, hint.Shows line reference ∧
        p { root := reference.root
            path := reference.path
            written := line.operator?.any fun operator => reference.span.stop ≤ operator.start
            packed := line.packs.any fun arguments =>
              arguments.start ≤ reference.span.start ∧ reference.span.stop ≤ arguments.stop } := by
  rw [occurrences_eq]
  constructor
  · rintro ⟨occurrence, found, holds⟩
    obtain ⟨line, onLine, found⟩ := List.mem_flatMap.mp found
    obtain ⟨reference, shown, rfl⟩ := List.mem_map.mp found
    exact ⟨line, reference, ⟨onLine, shown⟩, holds⟩
  · rintro ⟨line, reference, ⟨onLine, shown⟩, holds⟩
    exact ⟨_, List.mem_flatMap.mpr ⟨line, onLine, List.mem_map_of_mem shown⟩, holds⟩

private theorem refers_iff : hint.Refers name path ↔
    ∃ occurrence ∈ occurrences 0 hint.lines, occurrence.root = name ∧ occurrence.path = path :=
  (exists_mem_occurrences_iff (p := fun occurrence =>
    occurrence.root = name ∧ occurrence.path = path)).symm

private theorem writes_iff : hint.Writes name ↔
    ∃ occurrence ∈ occurrences 0 hint.lines, occurrence.root = name ∧ occurrence.written = true := by
  rw [exists_mem_occurrences_iff]
  simp only [Writes, Option.any_eq_true, decide_eq_true_eq]

/-- A hint packs a name exactly if it has a packed occurrence of it. -/
theorem packs_iff : hint.Packs name ↔
    ∃ occurrence ∈ occurrences 0 hint.lines, occurrence.root = name ∧ occurrence.packed = true := by
  rw [exists_mem_occurrences_iff]
  simp only [Packs, List.any_eq_true, decide_eq_true_eq]

/-! ### The root variable of a name -/

private theorem mem_paths_rootOf : path ∈ (rootOf (occurrences 0 hint.lines) name).paths ↔
    hint.Refers name path := by
  rw [refers_iff, rootOf, mem_ascending, List.mem_map]
  simp only [List.mem_filter, decide_eq_true_eq, and_assoc]

private theorem mem_roots : name ∈ ascending ((occurrences 0 hint.lines).map Occurrence.root) ↔
    ∃ path, hint.Refers name path := by
  simp only [refers_iff, mem_ascending, List.mem_map]
  constructor
  · rintro ⟨occurrence, found, rfl⟩
    exact ⟨_, occurrence, found, rfl, rfl⟩
  · rintro ⟨_, occurrence, found, rfl, rfl⟩
    exact ⟨occurrence, found, rfl⟩

private theorem mem_lengths_rootOf {length : Nat} :
    length ∈ ascending ((rootOf (occurrences 0 hint.lines) name).paths.map List.length) ↔
      ∃ path, hint.Refers name path ∧ path.length = length := by
  simp only [mem_ascending, List.mem_map, mem_paths_rootOf]

/-- A root has several lengths of field paths if it has two. -/
theorem varies_iff : hint.Varies name ↔
    1 < (ascending ((rootOf (occurrences 0 hint.lines) name).paths.map List.length)).length := by
  constructor
  · rintro ⟨path, other, refers, refersOther, differ⟩
    by_contra few
    exact differ (eq_of_mem_of_length_le_one (Nat.not_lt.mp few)
      (mem_lengths_rootOf.mpr ⟨path, refers, rfl⟩)
      (mem_lengths_rootOf.mpr ⟨other, refersOther, rfl⟩))
  · intro several
    have distinct := nodup_ascending ((rootOf (occurrences 0 hint.lines) name).paths.map List.length)
    obtain ⟨path, refers, first⟩ :=
      mem_lengths_rootOf.mp (List.getElem_mem (Nat.lt_trans Nat.zero_lt_one several))
    obtain ⟨other, refersOther, second⟩ := mem_lengths_rootOf.mp (List.getElem_mem several)
    refine ⟨path, other, refers, refersOther, fun same => ?_⟩
    rw [first, second, distinct.getElem_inj_iff] at same
    exact absurd same Nat.zero_ne_one

/-- The variable that occurrences make of a name describes it. -/
theorem describes_rootOf (refers : hint.Refers name path) (even : ¬hint.Varies name) :
    hint.Describes (rootOf (occurrences 0 hint.lines) name) where
  ascending := pairwise_ascending _
  paths _ := mem_paths_rootOf
  nonempty := List.ne_nil_of_mem (mem_paths_rootOf.mpr refers)
  uniform path member other otherMember := by
    by_contra differ
    exact even ⟨path, other, mem_paths_rootOf.mp member, mem_paths_rootOf.mp otherMember, differ⟩
  role := by
    simp only [writes_iff, rootOf, ite_eq_left_iff, reduceCtorEq, imp_false, not_not,
      List.any_eq_true, List.mem_filter, decide_eq_true_eq, and_assoc]
  packed := by
    simp only [packs_iff, rootOf, List.any_eq_true, List.mem_filter, decide_eq_true_eq, and_assoc]

/-! ### The root variables of a hint -/

/-- A root variable for each name that a hint refers to, ascending by name. -/
def allRoots (hint : Hint) : List RootVariable :=
  (ascending ((occurrences 0 hint.lines).map Occurrence.root)).map
    (rootOf (occurrences 0 hint.lines))

private theorem names_allRoots (hint : Hint) : hint.allRoots.map RootVariable.name =
    ascending ((occurrences 0 hint.lines).map Occurrence.root) := by
  rw [allRoots, List.map_map]
  exact List.map_id' _

/-- Roots are in the order of their names, each of which stands once. -/
theorem pairwise_names_allRoots (hint : Hint) :
    (hint.allRoots.map RootVariable.name).Pairwise (· < ·) := by
  rw [names_allRoots]
  exact pairwise_ascending _

private theorem mem_names_allRoots :
    name ∈ hint.allRoots.map RootVariable.name ↔ ∃ path, hint.Refers name path := by
  rw [names_allRoots]
  exact mem_roots

private theorem eq_rootOf_of_mem_allRoots {root : RootVariable} (member : root ∈ hint.allRoots) :
    root = rootOf (occurrences 0 hint.lines) root.name := by
  obtain ⟨name, -, rfl⟩ := List.mem_map.mp member
  rfl

private theorem rootOf_mem_allRoots (refers : hint.Refers name path) :
    rootOf (occurrences 0 hint.lines) name ∈ hint.allRoots :=
  List.mem_map_of_mem (mem_roots.mpr ⟨path, refers⟩)

/-- The first root variable with several lengths of field paths is that of the least name. -/
theorem first_varies {root : RootVariable} (first : hint.allRoots.find? (fun root =>
      1 < (ascending (root.paths.map List.length)).length) = some root) :
    root = rootOf (occurrences 0 hint.lines) root.name ∧ hint.Varies root.name ∧
      ∀ other, hint.Varies other → ¬other < root.name := by
  obtain ⟨varies, before, after, split, even⟩ := List.find?_eq_some_iff_append.mp first
  rw [decide_eq_true_eq] at varies
  have made := eq_rootOf_of_mem_allRoots (List.mem_of_find?_eq_some first)
  refine ⟨made, varies_iff.mpr (made ▸ varies), fun other otherVaries smaller => ?_⟩
  have ⟨path, _, refers, _⟩ := otherVaries
  have listed := rootOf_mem_allRoots refers
  have sorted := pairwise_names_allRoots hint
  rw [split] at listed sorted
  rw [List.map_append, List.map_cons] at sorted
  -- A root with a smaller name comes before the first one that varies, and does not vary.
  rcases List.mem_append.mp listed with earlier | later
  · have few := even _ earlier
    rw [Bool.not_eq_true', decide_eq_false_iff_not] at few
    exact few (varies_iff.mp otherVaries)
  · rcases List.mem_cons.mp later with same | behind
    · have same : other = root.name := congrArg RootVariable.name same
      exact Std.Irrefl.irrefl root.name (same ▸ smaller)
    · have larger : root.name < other :=
        (List.pairwise_cons.mp (List.pairwise_append.mp sorted).2.1).1 _ (List.mem_map_of_mem behind)
      exact Std.Irrefl.irrefl other (Trans.trans smaller larger)

/-! ### What is found -/

/-- Analysis finds what it is to find. -/
theorem finds_analyze (hint : Hint) : Finds hint hint.analyze := by
  unfold analyze
  simp only
  split
  · next silent =>
      refine .nothing fun name path refers => ?_
      obtain ⟨occurrence, found, -⟩ := refers_iff.mp refers
      rw [List.isEmpty_iff.mp silent] at found
      cases found
  · next shown =>
      split
      · next root first =>
          obtain ⟨made, varies, least⟩ := first_varies first
          refine .uneven varies least (pairwise_ascending _) fun length => ?_
          rw [made]
          exact mem_lengths_rootOf
      · next none =>
          have even (name : String) : ¬hint.Varies name := by
            intro varies
            have ⟨path, _, refers, _⟩ := varies
            have few := List.find?_eq_none.mp none _ (rootOf_mem_allRoots refers)
            rw [decide_eq_true_eq] at few
            exact few (varies_iff.mp varies)
          obtain ⟨occurrence, found⟩ := List.exists_mem_of_ne_nil _ (mt List.isEmpty_iff.mpr shown)
          have refers := refers_iff.mpr ⟨occurrence, found, rfl, rfl⟩
          refine .roots ⟨_, _, refers⟩ even (pairwise_names_allRoots hint)
            (fun _ => mem_names_allRoots) fun root member => ?_
          obtain ⟨name, listed, rfl⟩ := List.mem_map.mp member
          obtain ⟨path, refers⟩ := mem_roots.mp listed
          exact describes_rootOf refers (even name)

/-- A root variable is made of what it says. -/
theorem Describes.unique {left right : RootVariable} (describesLeft : hint.Describes left)
    (describesRight : hint.Describes right) (named : left.name = right.name) : left = right := by
  have paths : left.paths = right.paths := by
    refine describesLeft.ascending.eq_of_mem_iff describesRight.ascending fun path => ?_
    rw [describesLeft.paths, describesRight.paths, named]
  have role : left.role = .output ↔ right.role = .output := by
    rw [describesLeft.role, describesRight.role, named]
  have packed : left.packed = true ↔ right.packed = true := by
    rw [describesLeft.packed, describesRight.packed, named]
  obtain ⟨leftName, leftRole, leftPaths, leftPacked⟩ := left
  obtain ⟨rightName, rightRole, rightPaths, rightPacked⟩ := right
  cases named
  cases paths
  cases Bool.eq_iff_iff.mpr packed
  cases leftRole <;> cases rightRole <;> simp_all

/-- Root variables that describe the same names are the same. -/
theorem roots_unique {left right : List RootVariable} (describesLeft : ∀ root ∈ left, hint.Describes root)
    (describesRight : ∀ root ∈ right, hint.Describes root)
    (named : left.map RootVariable.name = right.map RootVariable.name) : left = right := by
  induction left generalizing right with
  | nil => exact (List.map_eq_nil_iff.mp named.symm).symm
  | cons root rest ih =>
      cases right with
      | nil => cases named
      | cons other others =>
          obtain ⟨name, names⟩ := List.cons.inj named
          rw [(describesLeft root List.mem_cons_self).unique (describesRight other List.mem_cons_self)
            name, ih (fun root member => describesLeft root (List.mem_cons_of_mem _ member))
            (fun root member => describesRight root (List.mem_cons_of_mem _ member)) names]

/-- There is one answer to what is found in a hint. -/
theorem Finds.unique {left right : Except AnalysisFault Signature} (findsLeft : Finds hint left)
    (findsRight : Finds hint right) : left = right := by
  cases findsLeft with
  | nothing silent =>
      cases findsRight with
      | nothing => rfl
      | uneven varies =>
          obtain ⟨path, -, refers, -⟩ := varies
          exact absurd refers (silent _ path)
      | roots some =>
          obtain ⟨name, path, refers⟩ := some
          exact absurd refers (silent name path)
  | uneven varies least ascending all =>
      cases findsRight with
      | nothing silent =>
          obtain ⟨path, -, refers, -⟩ := varies
          exact absurd refers (silent _ path)
      | uneven variesRight leastRight ascendingRight allRight =>
          have same := Std.Trichotomous.trichotomous _ _ (leastRight _ varies) (least _ variesRight)
          cases same
          rw [ascending.eq_of_mem_iff ascendingRight fun length => (all length).trans (allRight length).symm]
      | roots _ even => exact absurd varies (even _)
  | roots some even ascending names describes =>
      cases findsRight with
      | nothing silent =>
          obtain ⟨name, path, refers⟩ := some
          exact absurd refers (silent name path)
      | uneven varies => exact absurd varies (even _)
      | roots _ _ ascendingRight namesRight describesRight =>
          have named := ascending.eq_of_mem_iff ascendingRight fun name =>
            (names name).trans (namesRight name).symm
          rw [roots_unique describes describesRight named]

/-- **Analysis finds just what the lines show.** -/
theorem analyze_eq_iff (hint : Hint) (result : Except AnalysisFault Signature) :
    hint.analyze = result ↔ hint.Finds result :=
  ⟨fun same => same ▸ finds_analyze hint, (finds_analyze hint).unique⟩

end HintFuzz.Hint
