import HintFuzz.Hint.Signature
import HintFuzz.Proofs.Order.Ascending

/-!
# Signatures

A signature lists every root once, in the order of the names, and all field paths of a root
have the same length (`Hint.length_of_mem_paths`).
-/

namespace HintFuzz

variable {hint : Hint} {signature : Signature}

/-- A signature has the number of its hint, and one root for each name that the
hint refers to. -/
theorem Hint.analyze_ok (analyzed : hint.analyze = .ok signature) :
    signature.hint = hint.id ∧
      signature.roots = (ascending ((occurrences 0 hint.lines).map Occurrence.root)).map
        (rootOf (occurrences 0 hint.lines)) := by
  unfold Hint.analyze at analyzed
  simp only at analyzed
  split at analyzed
  · cases analyzed
  · split at analyzed
    · cases analyzed
    · cases analyzed
      exact ⟨rfl, rfl⟩

/-- The roots of a signature have different names. -/
theorem Hint.analyze_names_nodup (analyzed : hint.analyze = .ok signature) :
    (signature.roots.map RootVariable.name).Nodup := by
  obtain ⟨_, roots⟩ := Hint.analyze_ok analyzed
  have names (found : List Occurrence) : RootVariable.name ∘ rootOf found = fun name => name := rfl
  rw [roots, List.map_map, names, List.map_id']
  exact nodup_ascending _

/-- A list of one has one member. -/
theorem eq_of_mem_of_length_le_one {α : Type} {x y : α} {xs : List α} (few : xs.length ≤ 1)
    (first : x ∈ xs) (second : y ∈ xs) : x = y := by
  match xs with
  | [] => cases first
  | [only] => rw [List.mem_singleton.mp first, List.mem_singleton.mp second]
  | _ :: _ :: _ => exact absurd few (by simp)

/-- No root of a signature is accessed with field paths of several lengths. -/
theorem Hint.length_ascending_le_one (analyzed : hint.analyze = .ok signature) :
    ∀ root ∈ signature.roots, (ascending (root.paths.map List.length)).length ≤ 1 := by
  intro root member
  unfold Hint.analyze at analyzed
  simp only at analyzed
  split at analyzed
  · cases analyzed
  · split at analyzed
    · cases analyzed
    · next none =>
        cases analyzed
        have single := List.find?_eq_none.mp none root member
        rwa [decide_eq_true_eq, Nat.not_lt] at single

/-- All field paths of a root have the same length. -/
theorem Hint.length_of_mem_paths (analyzed : hint.analyze = .ok signature) {root : RootVariable}
    (member : root ∈ signature.roots) {path : List String} (found : path ∈ root.paths) :
    path.length = root.arity := by
  have single := Hint.length_ascending_le_one analyzed root member
  cases paths : root.paths with
  | nil => exact absurd (paths ▸ found) List.not_mem_nil
  | cons first rest =>
      have arity : root.arity = first.length := by rw [RootVariable.arity, paths]; rfl
      have listed {other : List String} (otherFound : other ∈ root.paths) :
          other.length ∈ ascending (root.paths.map List.length) :=
        mem_ascending.mpr (List.mem_map_of_mem otherFound)
      rw [arity]
      exact eq_of_mem_of_length_le_one single (listed found)
        (listed (paths ▸ List.mem_cons_self))

/-- The roots of a signature are those that occur on the lines of the hint. -/
theorem Hint.exists_root_iff (analyzed : hint.analyze = .ok signature) {name : String} :
    (∃ root ∈ signature.roots, root.name = name) ↔
      ∃ occurrence ∈ Hint.occurrences 0 hint.lines, occurrence.root = name := by
  obtain ⟨-, roots⟩ := Hint.analyze_ok analyzed
  rw [roots]
  constructor
  · rintro ⟨root, member, rfl⟩
    obtain ⟨name, nameMember, rfl⟩ := List.mem_map.mp member
    exact List.mem_map.mp (mem_ascending.mp nameMember)
  · rintro ⟨occurrence, found, rfl⟩
    exact ⟨_, List.mem_map_of_mem (mem_ascending.mpr (List.mem_map_of_mem found)), rfl⟩

/-- A root of a signature is made of the occurrences with its name. -/
theorem Hint.eq_rootOf (analyzed : hint.analyze = .ok signature) {root : RootVariable}
    (member : root ∈ signature.roots) :
    root = Hint.rootOf (Hint.occurrences 0 hint.lines) root.name := by
  obtain ⟨-, roots⟩ := Hint.analyze_ok analyzed
  rw [roots] at member
  obtain ⟨name, -, rfl⟩ := List.mem_map.mp member
  rfl

/-- The field paths of a root are those with which it occurs. -/
theorem Hint.mem_paths_iff (analyzed : hint.analyze = .ok signature) {root : RootVariable}
    (member : root ∈ signature.roots) {path : List String} :
    path ∈ root.paths ↔ ∃ occurrence ∈ Hint.occurrences 0 hint.lines,
      occurrence.root = root.name ∧ occurrence.path = path := by
  rw [Hint.eq_rootOf analyzed member, Hint.rootOf, mem_ascending, List.mem_map]
  simp only [List.mem_filter, decide_eq_true_eq, and_assoc]

/-- A root is packed if one of its occurrences is. -/
theorem Hint.packed_iff (analyzed : hint.analyze = .ok signature) {root : RootVariable}
    (member : root ∈ signature.roots) :
    root.packed = true ↔ ∃ occurrence ∈ Hint.occurrences 0 hint.lines,
      occurrence.root = root.name ∧ occurrence.packed = true := by
  rw [Hint.eq_rootOf analyzed member, Hint.rootOf, List.any_eq_true]
  simp only [List.mem_filter, decide_eq_true_eq, and_assoc]

/-- A signature has a packed root of a name. -/
def Signature.Packs (signature : Signature) (name : String) : Prop :=
  ∃ root ∈ signature.roots, root.name = name ∧ root.packed = true

/-- A signature packs the roots that have a packed occurrence. -/
theorem Hint.packs_iff_exists_occurrence (analyzed : hint.analyze = .ok signature)
    {name : String} :
    signature.Packs name ↔ ∃ occurrence ∈ Hint.occurrences 0 hint.lines,
      occurrence.root = name ∧ occurrence.packed = true := by
  constructor
  · rintro ⟨root, member, rfl, packed⟩
    exact (Hint.packed_iff analyzed member).mp packed
  · rintro ⟨occurrence, found, rfl, packed⟩
    obtain ⟨root, member, name⟩ := (Hint.exists_root_iff analyzed).mpr ⟨occurrence, found, rfl⟩
    exact ⟨root, member, name,
      (Hint.packed_iff analyzed member).mpr ⟨occurrence, found, name.symm, packed⟩⟩

end HintFuzz
