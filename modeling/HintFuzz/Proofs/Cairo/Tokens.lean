import HintFuzz.Proofs.Cairo.Slots
import HintFuzz.Proofs.Decimal.Digits
import HintFuzz.Proofs.Text.Search
import Mathlib.Logic.Function.Basic

/-!
# Tokens

A token starts and ends in a dollar sign, so in a layout without other dollar signs it is
found in the slots of its placeholder and nowhere else: not across two of them, since a
delimiter stands after each slot (`Layout.Delimited.startsIn_write`).  Replacing the tokens
of a text one after the other is therefore the same as filling all slots at once
(`Layout.Delimited.foldl_replaceAll_write`).
-/

namespace HintFuzz.Cairo

/-! ### The characters of a token -/

/-- What stands between the dollar signs of a token. -/
def tokenWord (id : PlaceholderId) : List Char :=
  "fuzz_".toList ++ (toString id).toList

/-- A token is a word between two dollar signs. -/
theorem toList_token (id : PlaceholderId) :
    (token id).toList = '$' :: (tokenWord id ++ ['$']) := by
  change ("$fuzz_" ++ toString id ++ "$").toList = _
  rw [String.toList_append, String.toList_append]
  rfl

/-- The word of a token has letters, digits and underscores only. -/
theorem isAlphanum_of_mem_tokenWord {id : PlaceholderId} {c : Char} (member : c ∈ tokenWord id) :
    c.isAlphanum = true ∨ c = '_' := by
  rcases List.mem_append.mp member with stem | digit
  · have all : "fuzz_".toList.all (fun c => c.isAlphanum || c = '_') = true := by decide
    have found := List.all_eq_true.mp all c stem
    rwa [Bool.or_eq_true, decide_eq_true_eq] at found
  · left
    rw [Char.isAlphanum, isDigit_of_mem_decimal digit, Bool.or_true]

private theorem dollar_notMem_tokenWord (id : PlaceholderId) : '$' ∉ tokenWord id := by
  intro member
  have other := isAlphanum_of_mem_tokenWord member
  revert other
  decide

private theorem tokenWord_injective {left right : PlaceholderId}
    (same : tokenWord left = tokenWord right) :
    left = right :=
  decimal_injective (String.toList_injective (List.append_cancel_left same))

/-! ### Where a token stands -/

variable {id other : PlaceholderId} {stretch rest : List Char}

/-- A token does not start where there is no dollar sign. -/
theorem quiet_token_of_notMem (missing : '$' ∉ stretch) (rest : List Char) :
    Text.Quiet (token id).toList stretch rest := by
  rw [toList_token]
  exact Text.quiet_of_notMem missing rest

/-- A text that starts with a delimiter does not go on as a token does. -/
theorem not_starts_token {mark : Char} (isDelimiter : mark ∈ Layout.delimiters) (after : List Char) :
    (token id).toList.isPrefixOf ('$' :: mark :: after) = false := by
  have other : 'f' ≠ mark := by
    rintro rfl
    revert isDelimiter
    decide
  rw [toList_token, List.isPrefixOf, beq_self_eq_true, Bool.true_and]
  change ('f' == mark && _) = false
  rw [beq_eq_false_iff_ne.mpr other, Bool.false_and]

/-- The rest of a token starts no token, if a delimiter follows. -/
theorem quiet_tokenWord {mark : Char} (isDelimiter : mark ∈ Layout.delimiters) (after : List Char) :
    Text.Quiet (token id).toList (tokenWord other ++ ['$']) (mark :: after) := by
  refine Text.quiet_append.mpr ⟨?_, ?_⟩
  · exact quiet_token_of_notMem (dollar_notMem_tokenWord other) _
  · exact ⟨not_starts_token isDelimiter after, trivial⟩

/-- A token starts no other token, if a delimiter follows. -/
theorem quiet_token_of_ne (different : other ≠ id) {mark : Char}
    (isDelimiter : mark ∈ Layout.delimiters) (after : List Char) :
    Text.Quiet (token id).toList (token other).toList (mark :: after) := by
  rw [toList_token other]
  refine ⟨?_, quiet_tokenWord isDelimiter after⟩
  rw [Bool.eq_false_iff]
  intro starts
  -- Both words end at the first dollar sign after the one that they start with.
  obtain ⟨more, whole⟩ := List.isPrefixOf_iff_prefix.mp starts
  simp only [toList_token, List.cons_append, List.append_assoc, List.nil_append,
    List.cons.injEq, true_and] at whole
  obtain ⟨same, -⟩ := Text.mark_inj (dollar_notMem_tokenWord id) (dollar_notMem_tokenWord other) whole
  exact different (tokenWord_injective same).symm

namespace Layout

variable {layout : Layout} {texts values : PlaceholderId → String}

/-- A layout with no dollar sign outside its slots. -/
def DollarFree (layout : Layout) : Prop :=
  ∀ text, .plain text ∈ layout → '$' ∉ text.toList

/-- What is behind a stretch of a layout without dollar signs has none either. -/
theorem DollarFree.tail {stretch : Stretch} (free : DollarFree (stretch :: layout)) :
    DollarFree layout :=
  fun text member => free text (List.mem_cons_of_mem _ member)

/-! ### Counting -/

/-- **A token stands in the slots of its placeholder and nowhere else.** -/
theorem Delimited.startsIn_write (delimited : Delimited layout) (free : DollarFree layout)
    (id : PlaceholderId) :
    Text.startsIn (token id).toList (write token layout).toList = (slots layout).count id := by
  induction delimited with
  | nil =>
      rw [toList_token]
      rfl
  | plain text later ih =>
      rw [toList_write_plain,
        Text.startsIn_append (quiet_token_of_notMem (free text List.mem_cons_self) _), ih free.tail,
        slots_plain]
  | slot other closes later ih =>
      obtain ⟨mark, isDelimiter, starts⟩ := closes.toList_write
      obtain ⟨after, rest⟩ := starts token
      rw [toList_write_slot, slots_slot, List.count_cons, ← ih free.tail, rest]
      by_cases same : other = id
      · subst same
        have quiet : Text.Quiet (token other).toList (tokenWord other ++ ['$']) (mark :: after) :=
          quiet_tokenWord isDelimiter after
        rw [beq_self_eq_true, if_pos rfl]
        rw [toList_token] at quiet ⊢
        exact Text.startsIn_needle quiet
      · rw [beq_eq_false_iff_ne.mpr same, if_neg Bool.false_ne_true]
        exact Text.startsIn_append (quiet_token_of_ne same isDelimiter after)

/-- There are two dollar signs for each slot. -/
theorem count_dollar_write (free : DollarFree layout) :
    (write token layout).toList.count '$' = 2 * (slots layout).length := by
  induction layout with
  | nil => rfl
  | cons stretch rest ih =>
      cases stretch with
      | plain text =>
          rw [toList_write_plain, List.count_append, ih free.tail,
            List.count_eq_zero_of_not_mem (free text List.mem_cons_self), Nat.zero_add, slots_plain]
      | slot id =>
          have own : (token id).toList.count '$' = 2 := by
            rw [toList_token, List.count_cons_self, List.count_append,
              List.count_eq_zero_of_not_mem (dollar_notMem_tokenWord id)]
            rfl
          rw [toList_write_slot, List.count_append, ih free.tail, own, slots_slot, List.length_cons]
          omega

/-! ### Replacing -/

/-- Every slot is filled with its token, or with a text that has no dollar sign. -/
def Tokenized (texts : PlaceholderId → String) : Prop :=
  ∀ id, texts id = token id ∨ '$' ∉ (texts id).toList

/-- Replacing a token fills the slots of its placeholder. -/
theorem Delimited.replaceAll_write (delimited : Delimited layout) (free : DollarFree layout)
    (tokenized : Tokenized texts) (own : texts id = token id) (value : String) :
    Text.replaceAll (token id) value (write texts layout) =
      write (Function.update texts id value) layout := by
  apply Text.replaceAll_eq
  induction delimited with
  | nil => exact Text.replaces_nil
  | plain text later ih =>
      rw [toList_write_plain, toList_write_plain]
      exact (ih free.tail).append (quiet_token_of_notMem (free text List.mem_cons_self) _)
  | slot other closes later ih =>
      obtain ⟨mark, isDelimiter, starts⟩ := closes.toList_write
      obtain ⟨after, rest⟩ := starts texts
      have replaces := ih free.tail
      rw [toList_write_slot, toList_write_slot]
      by_cases same : other = id
      · subst same
        rw [Function.update_self, own]
        rw [toList_token] at replaces ⊢
        exact replaces.needle_append
      · rw [Function.update_of_ne same]
        refine replaces.append ?_
        rw [rest]
        rcases tokenized other with isToken | clean
        · rw [isToken]
          exact quiet_token_of_ne same isDelimiter after
        -- A text that was filled in before has no dollar sign to start a token with.
        · exact quiet_token_of_notMem clean _

/-- Texts stay tokens or clean when one of them becomes clean. -/
theorem Tokenized.update (tokenized : Tokenized texts) (id : PlaceholderId) {value : String}
    (clean : '$' ∉ value.toList) : Tokenized (Function.update texts id value) := by
  intro other
  by_cases same : other = id
  · subst same
    rw [Function.update_self]
    exact .inr clean
  · rw [Function.update_of_ne same]
    exact tokenized other

/-- **Replacing tokens one after the other fills all their slots at once**, where no
dollar sign is filled in. -/
theorem Delimited.foldl_replaceAll_write (delimited : Delimited layout) (free : DollarFree layout)
    (clean : ∀ id, '$' ∉ (values id).toList) {ids : List PlaceholderId} (distinct : ids.Nodup)
    (tokenized : Tokenized texts) (pending : ∀ id ∈ ids, texts id = token id) :
    ids.foldl (fun text id => Text.replaceAll (token id) (values id) text) (write texts layout) =
      write (fun id => if id ∈ ids then values id else texts id) layout := by
  induction ids generalizing texts with
  | nil => simp only [List.foldl_nil, List.not_mem_nil, if_false]
  | cons id rest ih =>
      obtain ⟨fresh, restDistinct⟩ := List.nodup_cons.mp distinct
      have later : ∀ other ∈ rest, Function.update texts id (values id) other = token other := by
        intro other member
        have different : other ≠ id := fun same => fresh (same ▸ member)
        rw [Function.update_of_ne different]
        exact pending other (List.mem_cons_of_mem _ member)
      rw [List.foldl_cons,
        delimited.replaceAll_write free tokenized (pending id List.mem_cons_self) (values id),
        ih restDistinct (tokenized.update id (clean id)) later]
      refine write_congr fun other _ => ?_
      by_cases same : other = id
      · subst same
        rw [if_neg fresh, Function.update_self, if_pos List.mem_cons_self]
      · rw [Function.update_of_ne same]
        simp only [List.mem_cons, same, false_or]

end Layout

end HintFuzz.Cairo
