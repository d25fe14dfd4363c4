import HintFuzz.Text.Search
import Mathlib.Data.List.Infix

/-!
# Where a needle stands

A needle occurs in a text if it is a stretch of it (`occursIn_iff`), and characters that it does not
have can be left out at the ends of the text (`infix_append_left_iff`, `infix_append_right_iff`).

A stretch of text in which no needle starts is passed over unchanged, whether needles
are counted (`startsIn_append`) or replaced (`Replaces.append`).  What follows a
stretch counts: a needle may start in the stretch and end after it.
-/

namespace HintFuzz.Text

/-! ### Finding -/

/-- A needle occurs in a text exactly if it is an infix of it. -/
theorem occursIn_iff {needle text : List Char} : occursIn needle text = true ↔ needle <:+: text := by
  induction text with
  | nil => rw [occursIn, List.isEmpty_iff, List.infix_nil]
  | cons c rest ih =>
      rw [occursIn, Bool.or_eq_true, ih, List.isPrefixOf_iff_prefix, List.infix_cons_iff]

/-- Characters that a needle does not have end no occurrence of it. -/
theorem infix_append_left_iff {needle left right : List Char} (other : ∀ c ∈ right, c ∉ needle) :
    needle <:+: left ++ right ↔ needle <:+: left := by
  refine ⟨fun found => ?_, fun found => found.trans (List.prefix_append left right).isInfix⟩
  rcases List.infix_append_iff.mp found with inside | behind | ⟨front, back, rfl, inside, across⟩
  · exact inside
  · cases needle with
    | nil => exact List.nil_infix
    | cons c rest => exact absurd List.mem_cons_self (other c (behind.subset List.mem_cons_self))
  · cases back with
    | nil => exact (List.append_nil front).symm ▸ inside.isInfix
    | cons c rest =>
        exact absurd (List.mem_append_right _ List.mem_cons_self)
          (other c (across.subset List.mem_cons_self))

/-- Characters that a needle does not have start no occurrence of it. -/
theorem infix_append_right_iff {needle left right : List Char} (other : ∀ c ∈ left, c ∉ needle) :
    needle <:+: left ++ right ↔ needle <:+: right := by
  rw [← List.reverse_infix, List.reverse_append, infix_append_left_iff, List.reverse_infix]
  intro c member inside
  exact other c (List.mem_reverse.mp member) (List.mem_reverse.mp inside)

/-- Texts are folded character by character. -/
theorem folded_append (left right : String) : folded (left ++ right) = folded left ++ folded right := by
  rw [folded, String.toList_append, List.flatMap_append]
  rfl

/-! ### Stretches without a needle -/

/-- At how many places of a text a needle starts. -/
def startsIn (needle text : List Char) : Nat :=
  text.tails.countP needle.isPrefixOf

/-- No needle starts in a stretch of text that `rest` follows. -/
def Quiet (needle : List Char) : List Char → List Char → Prop
  | [], _ => True
  | c :: stretch, rest =>
    needle.isPrefixOf (c :: stretch ++ rest) = false ∧ Quiet needle stretch rest

variable {needle stretch left right rest : List Char}

/-- No needle starts in two stretches if none starts in either, where it stands. -/
theorem quiet_append :
    Quiet needle (left ++ right) rest ↔ Quiet needle left (right ++ rest) ∧ Quiet needle right rest := by
  induction left with
  | nil => exact ⟨fun quiet => ⟨trivial, quiet⟩, And.right⟩
  | cons c left ih =>
      simp only [List.cons_append, Quiet, ih, List.append_assoc, and_assoc]

/-- A needle does not start where its first character is missing. -/
theorem quiet_of_notMem {first : Char} (missing : first ∉ stretch) (rest : List Char) :
    Quiet (first :: needle) stretch rest := by
  induction stretch with
  | nil => trivial
  | cons c stretch ih =>
      obtain ⟨other, later⟩ := List.ne_and_not_mem_of_not_mem_cons missing
      refine ⟨?_, ih later⟩
      simp only [List.cons_append, List.isPrefixOf, Bool.and_eq_false_iff, beq_eq_false_iff_ne]
      exact .inl other

/-! ### Counting -/

private theorem startsIn_cons (c : Char) (rest : List Char) :
    startsIn needle (c :: rest) =
      startsIn needle rest + if needle.isPrefixOf (c :: rest) then 1 else 0 := by
  rw [startsIn, List.tails_cons, List.countP_cons]
  rfl

/-- A quiet stretch adds nothing to the count. -/
theorem startsIn_append (quiet : Quiet needle stretch rest) :
    startsIn needle (stretch ++ rest) = startsIn needle rest := by
  induction stretch with
  | nil => rfl
  | cons c stretch ih =>
      obtain ⟨here, later⟩ := quiet
      rw [List.cons_append, startsIn_cons, ih later, if_neg]
      · rfl
      · rw [← List.cons_append, here]
        exact Bool.false_ne_true

/-- A needle adds one to the count if no other starts before it is over. -/
theorem startsIn_needle {first : Char} (quiet : Quiet (first :: needle) needle rest) :
    startsIn (first :: needle) (first :: needle ++ rest) = startsIn (first :: needle) rest + 1 := by
  have found : (first :: needle).isPrefixOf (first :: (needle ++ rest)) = true :=
    List.isPrefixOf_iff_prefix.mpr (List.prefix_append _ rest)
  rw [List.cons_append, startsIn_cons, startsIn_append quiet, if_pos found]

/-! ### Replacing -/

variable {replacement result : List Char}

/-- Replacing all needles of a text gives a result, if the whole text is read. -/
def Replaces (needle replacement text result : List Char) : Prop :=
  ∀ fuel, text.length ≤ fuel → replaceFrom needle replacement fuel text = result

/-- There is nothing to replace in an empty text. -/
theorem replaces_nil : Replaces needle replacement [] [] := by
  intro fuel _
  cases fuel with
  | zero => rfl
  | succ fuel => rfl

/-- A quiet stretch is kept. -/
theorem Replaces.append (later : Replaces needle replacement rest result)
    (quiet : Quiet needle stretch rest) :
    Replaces needle replacement (stretch ++ rest) (stretch ++ result) := by
  induction stretch with
  | nil => exact later
  | cons c stretch ih =>
      obtain ⟨here, quietRest⟩ := quiet
      intro fuel enough
      obtain ⟨more, rfl⟩ := Nat.exists_eq_add_of_le' (Nat.le_of_add_left_le enough)
      rw [List.cons_append, replaceFrom, ← List.cons_append, here, if_neg Bool.false_ne_true,
        ih quietRest more (Nat.le_of_succ_le_succ enough), List.cons_append]

/-- A needle is replaced. -/
theorem Replaces.needle_append {first : Char} (later : Replaces (first :: needle) replacement rest result) :
    Replaces (first :: needle) replacement (first :: needle ++ rest) (replacement ++ result) := by
  intro fuel enough
  have found : (first :: needle).isPrefixOf (first :: (needle ++ rest)) = true :=
    List.isPrefixOf_iff_prefix.mpr (List.prefix_append _ rest)
  obtain ⟨more, rfl⟩ := Nat.exists_eq_add_of_le' (Nat.le_of_add_left_le enough)
  have enoughLater : rest.length ≤ more := by
    rw [List.length_append, List.length_cons] at enough
    omega
  rw [List.cons_append, replaceFrom, if_pos found, ← List.cons_append, List.drop_left,
    later more enoughLater]

/-- Replacing gives what the replacement of all occurrences says. -/
theorem replaceAll_eq {needle replacement text result : String}
    (replaces : Replaces needle.toList replacement.toList text.toList result.toList) :
    replaceAll needle replacement text = result := by
  apply String.toList_injective
  rw [replaceAll, String.toList_ofList, replaces _ (Nat.le_refl _)]

end HintFuzz.Text
