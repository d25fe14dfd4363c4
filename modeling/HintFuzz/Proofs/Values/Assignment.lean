import HintFuzz.Values.Assignment
import Mathlib.Data.List.Nodup

/-!
# Lists of assigned values

Of the values that a list gives to a placeholder the last one counts (`valueOf?_eq_some_iff`), so
how the values of different placeholders are mixed does not matter (`valueOf?_filter`).

A list that gives each of its placeholders one value is known by its placeholders, in
order, and by the values that it gives (`eq_of_valueOf?_eq`).  The values of an iteration
are such a list, for the placeholders of its program (`Values.placeholders_assign`).
-/

namespace HintFuzz

/-- Values are drawn for all placeholders, in their order. -/
theorem Values.placeholders_assign (ids : List PlaceholderId) (stream : Random.Stream) :
    (Values.assign ids stream).map Assigned.placeholder = ids := by
  induction ids generalizing stream with
  | nil => rfl
  | cons id rest ih => exact congrArg (id :: ·) (ih _)

variable {left right values : List Assigned} {id : PlaceholderId}

/-- The value is the last one that a list gives to a placeholder. -/
def GivesLast (values : List Assigned) (id : PlaceholderId) (value : Nat) : Prop :=
  ∃ before after, values = before ++ ⟨id, value⟩ :: after ∧
    ∀ later ∈ after, later.placeholder ≠ id

/-- The value of a placeholder is the last one that is given for it. -/
theorem valueOf?_eq_some_iff {value : Nat} :
    valueOf? values id = some value ↔ GivesLast values id value := by
  simp only [valueOf?, Option.map_eq_some_iff, List.find?_eq_some_iff_append, decide_eq_true_eq]
  constructor
  · rintro ⟨⟨_, _⟩, ⟨rfl, after, before, split, others⟩, rfl⟩
    refine ⟨before.reverse, after.reverse, ?_, fun later member => ?_⟩
    · rw [← List.reverse_reverse values, split]
      simp
    · simpa using others later (List.mem_reverse.mp member)
  · rintro ⟨before, after, rfl, others⟩
    refine ⟨⟨id, value⟩, ⟨rfl, after.reverse, before.reverse, by simp, fun later member => ?_⟩, rfl⟩
    simpa using others later (List.mem_reverse.mp member)

/-- A placeholder has no value if none is given for it. -/
theorem valueOf?_eq_none_iff :
    valueOf? values id = none ↔ ∀ assigned ∈ values, assigned.placeholder ≠ id := by
  simp [valueOf?]

/-- There is a last value for a placeholder if there is one. -/
theorem exists_givesLast_iff :
    (∃ value, GivesLast values id value) ↔ ∃ assigned ∈ values, assigned.placeholder = id := by
  simp only [← valueOf?_eq_some_iff, ← Option.isSome_iff_exists, Option.isSome_iff_ne_none, ne_eq,
    valueOf?_eq_none_iff, not_forall, not_not, exists_prop]

/-- Values given to other placeholders do not count. -/
theorem valueOf?_filter :
    valueOf? (values.filter fun assigned => assigned.placeholder = id) id = valueOf? values id := by
  rw [valueOf?, valueOf?, ← List.filter_reverse, List.find?_filter]
  simp only [and_self, Bool.decide_eq_true]

/-- A value that is given once is the value given. -/
theorem valueOf?_of_mem (distinct : (values.map Assigned.placeholder).Nodup) {assigned : Assigned}
    (member : assigned ∈ values) : valueOf? values assigned.placeholder = some assigned.value := by
  unfold valueOf?
  cases found : values.reverse.find? fun other => other.placeholder = assigned.placeholder with
  | none =>
      have missing := List.find?_eq_none.mp found assigned (List.mem_reverse.mpr member)
      exact absurd (decide_eq_true rfl) missing
  | some other =>
      have otherMember := List.mem_reverse.mp (List.mem_of_find?_eq_some found)
      have samePlaceholder := List.find?_some found
      rw [decide_eq_true_eq] at samePlaceholder
      rw [List.inj_on_of_nodup_map distinct otherMember member samePlaceholder]
      rfl

/-- A list is made of its placeholders and of the values that it gives them. -/
theorem map_valueOf?_eq (distinct : (values.map Assigned.placeholder).Nodup) :
    ((values.map Assigned.placeholder).map fun id => ⟨id, (valueOf? values id).getD 0⟩) = values := by
  have each : ∀ assigned ∈ values,
      (⟨assigned.placeholder, (valueOf? values assigned.placeholder).getD 0⟩ : Assigned) =
        assigned := by
    intro assigned member
    rw [valueOf?_of_mem distinct member, Option.getD_some]
  rw [List.map_map]
  exact (List.map_congr_left each).trans (List.map_id' _)

/-- Lists with the same placeholders that give the same values are the same. -/
theorem eq_of_valueOf?_eq
    (placeholders : left.map Assigned.placeholder = right.map Assigned.placeholder)
    (distinct : (left.map Assigned.placeholder).Nodup)
    (same : ∀ id ∈ left.map Assigned.placeholder, valueOf? left id = valueOf? right id) :
    left = right := by
  refine (map_valueOf?_eq distinct).symm.trans (Eq.trans ?_ (map_valueOf?_eq (placeholders ▸ distinct)))
  rw [← placeholders]
  refine List.map_congr_left fun id member => ?_
  rw [same id member]

end HintFuzz
