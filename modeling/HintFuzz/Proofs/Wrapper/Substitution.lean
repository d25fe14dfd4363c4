import HintFuzz.Proofs.Cairo.Tokens
import HintFuzz.Proofs.Monad.Steps
import HintFuzz.Proofs.Wrapper.Text

/-!
# Substitution

Giving a wrapper values changes its text only where its placeholders are written
(`Hint.instantiate_substitutes`).  All of them are written before the function that holds
the hint, once each, and no other dollar sign is written there, since names have none.
What the hint says is not searched, so it may hold tokens of its own.
-/

namespace HintFuzz

open Cairo Cairo.Layout Wrapper

/-- The text of a wrapper and the text that values make of it: `holder` is what they
share, the text of the function that holds the hint, and `filled` is `front` with decimals
in place of tokens. -/
structure Wrapper.Substitutes (wrapper : Wrapper) (lines : List String) (values : List Assigned)
    (written front filled holder : String) : Prop where
  text : wrapper.text = front ++ holder
  written : written = filled ++ holder
  function : ∃ main function, wrapper.program.functions = [main, function] ∧
    function.name = hintFunction ∧ ∀ binding, function.render binding = .ok holder
  /-- The hint's lines stand between two lines of their own, as they are. -/
  block : ∃ before after, holder =
    before ++ "\n    %\x7b\n" ++ String.join (lines.map (· ++ "\n")) ++ "    %\x7d\n" ++ after
  once : ∀ id ∈ wrapper.placeholderIds, Text.startsIn (token id).toList front.toList = 1
  dollars : front.toList.count '$' = 2 * wrapper.placeholderIds.length
  replaced : ∃ value : PlaceholderId → Nat,
    (∀ id ∈ wrapper.placeholderIds, valueOf? values id = some (value id)) ∧
      filled = wrapper.placeholderIds.foldl
        (fun text id => Text.replaceAll (token id) (toString (value id)) text) front
  clean : '$' ∉ filled.toList

namespace Wrapper

variable {wrapper : Wrapper} {lines : List String} {values : List Assigned}

/-! ### The front -/

/-- The layout of a program before the function that holds the hint. -/
def front (lines : List String) : Layout :=
  ofLines (frontOf lines)

private theorem slots_holder (lines : List String) : slots (ofLines (holder lines).lines) = [] := by
  rw [slots_ofLines, Function.slots_lines]
  exact placeholders_hintHolder lines _ _

private theorem Wraps.layout_eq (wraps : Wraps wrapper lines) :
    ofLines wrapper.program.lines = front lines ++ ofLines (holder lines).lines := by
  rw [wraps.lines_eq, ofLines_append]
  rfl

/-- All placeholders are written in the front. -/
theorem Wraps.slots_front (wraps : Wraps wrapper lines) :
    slots (front lines) = wrapper.placeholderIds := by
  rw [wraps.ids, ← Program.slots_lines, wraps.layout_eq, slots_append, slots_holder, List.append_nil]

private theorem Wraps.delimited_front (wraps : Wraps wrapper lines) : Delimited (front lines) := by
  refine delimited_ofLines fun line member => ?_
  have inProgram : line ∈ wrapper.program.lines := by
    rw [wraps.lines_eq]
    exact List.mem_append_left _ member
  exact Program.delimited_of_mem_lines inProgram

/-- No name of a program has a dollar sign. -/
theorem Wraps.dollarFree_front (wraps : Wraps wrapper lines) : DollarFree (front lines) := by
  intro text member
  rcases mem_ofLines member with ending | ⟨line, lineMember, found⟩
  · cases ending
    decide
  · exact (wraps.isSpelled_front line lineMember).notMem (by decide) text found

private theorem dollar_notMem_decimalOf (values : List Assigned) (id : PlaceholderId) :
    '$' ∉ (decimalOf values id).toList := by
  intro member
  exact absurd (isName_decimalOf values id '$' member) (by decide)

/-- Filling the front is replacing its tokens one after the other. -/
theorem Wraps.write_front (wraps : Wraps wrapper lines) {value : PlaceholderId → Nat}
    (given : ∀ id ∈ wrapper.placeholderIds, valueOf? values id = some (value id)) :
    write (decimalOf values) (front lines) =
      wrapper.placeholderIds.foldl
        (fun text id => Text.replaceAll (token id) (toString (value id)) text)
        (write token (front lines)) := by
  have clean : ∀ id, '$' ∉ (toString (value id)).toList :=
    fun id member => absurd (isName_decimal (value id) '$' member) (by decide)
  rw [wraps.delimited_front.foldl_replaceAll_write wraps.dollarFree_front clean wraps.ids_nodup
    (fun id => .inl rfl) (fun id _ => rfl)]
  refine write_congr fun id member => ?_
  rw [wraps.slots_front] at member
  rw [if_pos member, decimalOf_eq (given id member)]

/-! ### The function that holds the hint -/

/-- What is written for that function does not depend on what fills slots. -/
theorem write_holder (texts texts' : PlaceholderId → String) (lines : List String) :
    write texts (ofLines (holder lines).lines) = write texts' (ofLines (holder lines).lines) := by
  refine write_congr fun id member => ?_
  rw [slots_holder] at member
  cases member

private theorem render_holder (binding : Binding) (lines : List String) :
    (holder lines).render binding = .ok (write token (ofLines (holder lines).lines)) := by
  rw [Function.render_eq, fill_eq_ok_iff]
  refine ⟨fun id member => ?_, write_holder _ _ lines⟩
  rw [slots_holder] at member
  cases member

/-- The text of lines ends in a line feed. -/
theorem exists_write_ofLines (texts : PlaceholderId → String) {lines : List Layout}
    (some : lines ≠ []) : ∃ before, write texts (ofLines lines) = before ++ "\n" := by
  obtain ⟨before, last, rfl⟩ := List.eq_nil_or_concat lines |>.resolve_left some
  refine ⟨write texts (ofLines before ++ last), ?_⟩
  rw [List.concat_eq_append, ofLines_append, ofLines_cons, write_append, write_append, write_append]
  exact String.append_assoc.symm

/-- The block of a hint holds the hint's lines as they are. -/
theorem exists_holder_eq (lines : List String) :
    ∃ before after, write token (ofLines (holder lines).lines) =
      before ++ "\n    %\x7b\n" ++ String.join (lines.map (· ++ "\n")) ++ "    %\x7d\n" ++ after := by
  have opening : ∃ before,
      write token (ofLines (openingLines (inputsOf lines) (outputsOf lines))) = before ++ "\n" :=
    exists_write_ofLines token (List.cons_ne_nil _ _)
  obtain ⟨before, opening⟩ := opening
  have hintLines : String.join (lines.map (· ++ "\n")) =
      write token (ofLines (lines.map fun line => [.plain line])) :=
    (fill_eq_ok_iff.mp (fill_hintLines .tokens lines)).2
  have blockStart : write token (ofLines [blockLine]) = "    %\x7b\n" := rfl
  have blockEnd : write token (ofLines [indented [.plain "%\x7d"]]) = "    %\x7d\n" := rfl
  have whole : (holder lines).lines =
      openingLines (inputsOf lines) (outputsOf lines) ++ ([blockLine] ++
        ((lines.map fun line => [.plain line]) ++
          ([indented [.plain "%\x7d"]] ++ (closingLines (outputsOf lines)).tail))) :=
    lines_hintHolder lines _ _
  have split : "\n    %\x7b\n" = "\n" ++ "    %\x7b\n" := rfl
  refine ⟨before, write token (ofLines (closingLines (outputsOf lines)).tail), ?_⟩
  simp only [whole, ofLines_append, write_append, opening, blockStart, blockEnd, hintLines, split,
    String.append_assoc]

end Wrapper

/-- **Substitution touches only the placeholders.** -/
theorem Hint.instantiate_substitutes {hint : Hint} {wrapper : Wrapper} {values : List Assigned}
    {written : String} (prepared : hint.prepare = .ok wrapper)
    (accepted : wrapper.instantiate values = .ok written) :
    ∃ front filled holder, wrapper.Substitutes hint.lines values written front filled holder := by
  have wraps := wraps_of_prepare prepared
  obtain ⟨given, text⟩ := wraps.instantiate_ok accepted
  refine ⟨write token (front hint.lines), write (decimalOf values) (front hint.lines),
    write token (ofLines (holder hint.lines).lines), ?_⟩
  refine
    { text := ?_
      written := ?_
      function := ?_
      block := exists_holder_eq hint.lines
      once := ?_
      dollars := ?_
      replaced := ?_
      clean := ?_ }
  · rw [wraps.text_eq, wraps.layout_eq, write_append]
  · rw [text, wraps.layout_eq, write_append, write_holder (decimalOf values) token]
  · have functions := congrArg Program.functions wraps.program
    exact ⟨_, holder hint.lines, functions, rfl, fun binding => render_holder binding hint.lines⟩
  · intro id member
    rw [wraps.delimited_front.startsIn_write wraps.dollarFree_front, wraps.slots_front]
    exact List.count_eq_one_of_mem wraps.ids_nodup member
  · rw [count_dollar_write wraps.dollarFree_front, wraps.slots_front]
  · have values : ∀ id ∈ wrapper.placeholderIds,
        valueOf? values id = some ((valueOf? values id).getD 0) := by
      intro id member
      obtain ⟨value, found⟩ := given id member
      rw [found, Option.getD_some]
    exact ⟨_, values, wraps.write_front values⟩
  · exact notMem_write wraps.dollarFree_front fun id _ => dollar_notMem_decimalOf values id

/-- A hint that writes tokens and the end of its block itself. -/
def Hint.imitation : Hint :=
  ⟨3, ["ids.res.d0 = ids.a.low + ids.b # $fuzz_0$", "x = '$fuzz_1$'", "    %\x7d"]⟩

/-- The tokens that a hint writes stay as they are, whatever values are given. -/
theorem Hint.imitation_substitutes :
    ∃ wrapper written, Hint.imitation.prepare = .ok wrapper ∧
      wrapper.instantiate [⟨0, 7⟩, ⟨2, 5⟩, ⟨1, 12⟩, ⟨0, 10⟩] = .ok written ∧
      ∃ front filled holder, wrapper.Substitutes Hint.imitation.lines
        [⟨0, 7⟩, ⟨2, 5⟩, ⟨1, 12⟩, ⟨0, 10⟩] written front filled holder := by
  have seen : Hint.imitation.prepare.toOption.any (fun wrapper =>
      (wrapper.instantiate [⟨0, 7⟩, ⟨2, 5⟩, ⟨1, 12⟩, ⟨0, 10⟩]).isOk) = true := by
    decide +kernel
  obtain ⟨wrapper, prepared, succeeds⟩ := exists_ok_of_any seen
  obtain ⟨written, accepted⟩ := exists_ok_of_isOk succeeds
  exact ⟨wrapper, written, prepared, accepted, Hint.instantiate_substitutes prepared accepted⟩

end HintFuzz
