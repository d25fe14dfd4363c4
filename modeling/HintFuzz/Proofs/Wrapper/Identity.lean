import HintFuzz.Proofs.Cairo.Tokens
import HintFuzz.Proofs.Text.Lines
import HintFuzz.Proofs.Wrapper.Text

/-!
# What a text tells

The text of a program tells the lines of its hint (`Wraps.lines_eq_of_write_eq`).  A percent
sign is written on no line before the hint's block, so the first line that is the opening of
a block is the one; and three lines follow the hint's own, whatever these look like.
Once the lines are known so is the layout, and with it what fills the slots
(`Wraps.texts_eq_of_write_eq`).
-/

namespace HintFuzz.Wrapper

open Cairo Layout

variable {wrapper left right : Wrapper} {lines leftLines rightLines : List String}
  {texts leftTexts rightTexts : PlaceholderId → String}

/-! ### What fills slots -/

/-- Every slot is filled with characters of names and dollar signs. -/
def Fills (texts : PlaceholderId → String) : Prop :=
  ∀ id, ∀ c ∈ (texts id).toList, c = '$' ∨ Hint.isNameChar c = true

/-- What fills slots has characters of names and dollar signs only. -/
theorem Fills.notMem (fills : Fills texts) {c : Char} (other : ¬(c = '$' ∨ Hint.isNameChar c = true))
    (id : PlaceholderId) : c ∉ (texts id).toList :=
  fun member => other (fills id c member)

/-- The digits of values fill slots. -/
theorem fills_decimalOf (values : List Assigned) : Fills (decimalOf values) :=
  fun id c member => .inr (isName_decimalOf values id c member)

/-- Tokens fill slots. -/
theorem fills_token : Fills token := by
  intro id c member
  rw [toList_token] at member
  rcases List.mem_cons.mp member with rfl | later
  · exact .inl rfl
  · rcases List.mem_append.mp later with word | last
    · right
      rw [Hint.isNameChar, Bool.or_eq_true, decide_eq_true_eq]
      exact isAlphanum_of_mem_tokenWord word
    · exact .inl (List.mem_singleton.mp last)

/-! ### Lines -/

/-- The lines that are written for a list of layouts. -/
def written (texts : PlaceholderId → String) (lines : List Layout) : List (List Char) :=
  lines.map fun line => (write texts line).toList

private theorem toList_write_ofLines (texts : PlaceholderId → String) (lines : List Layout) :
    (write texts (ofLines lines)).toList = Text.terminated '\n' (written texts lines) := by
  induction lines with
  | nil => rfl
  | cons line rest ih =>
      have first : Text.terminated '\n' (written texts (line :: rest)) =
          (write texts line).toList ++ ['\n'] ++ Text.terminated '\n' (written texts rest) := rfl
      rw [ofLines_cons, write_append, String.toList_append, toList_write_plain, ih, first,
        List.append_assoc]
      rfl

/-- What is not written in programs is not written on spelled lines. -/
theorem notMem_of_mem_written {layouts : List Layout} (spelled : ∀ line ∈ layouts, IsSpelled line)
    (fills : Fills texts) {c : Char} (other : ¬(c = '$' ∨ isProgramChar c = true)) :
    ∀ line ∈ written texts layouts, c ∉ line := by
  intro line member
  obtain ⟨layout, found, rfl⟩ := List.mem_map.mp member
  have notProgram : isProgramChar c = false := by
    rw [Bool.eq_false_iff]
    exact fun isProgram => other (.inr isProgram)
  refine notMem_write ((spelled layout found).notMem notProgram) fun id _ => fills.notMem ?_ id
  rintro (dollar | isName)
  · exact other (.inl dollar)
  · exact other (.inr (Bool.or_eq_true_iff.mpr (.inl isName)))

/-! ### The lines of a program -/

/-- The lines of a hint's program before the hint's block. -/
def beforeBlock (lines : List String) : List Layout :=
  frontOf lines ++ openingLines (inputsOf lines) (outputsOf lines)

private theorem Wraps.lines_eq_block (wraps : Wraps wrapper lines) :
    wrapper.program.lines = beforeBlock lines ++
      blockLine :: ((lines.map fun line => [.plain line]) ++ closingLines (outputsOf lines)) := by
  rw [wraps.lines_eq, holder, lines_hintHolder, beforeBlock, List.append_assoc]

private theorem Wraps.isSpelled_beforeBlock (wraps : Wraps wrapper lines) :
    ∀ line ∈ beforeBlock lines, IsSpelled line := by
  intro line member
  rcases List.mem_append.mp member with front | opening
  · exact wraps.isSpelled_front line front
  · exact isSpelled_opening wraps.named_inputs wraps.named_outputs line opening

private theorem written_hintLines (texts : PlaceholderId → String) (lines : List String) :
    written texts (lines.map fun line => [.plain line]) = lines.map String.toList := by
  rw [written, List.map_map]
  refine List.map_congr_left fun line _ => ?_
  exact (toList_write_plain line).trans (List.append_nil _)

/-- The lines that are written for a program: those before the block, the opening of the
block, the hint's lines and three more. -/
theorem Wraps.written_eq (wraps : Wraps wrapper lines) (texts : PlaceholderId → String) :
    written texts wrapper.program.lines = written texts (beforeBlock lines) ++
      "    %\x7b".toList :: (lines.map String.toList ++
        written texts (closingLines (outputsOf lines))) := by
  rw [wraps.lines_eq_block, ← written_hintLines texts lines]
  simp only [written, List.map_append, List.map_cons]
  rfl

/-- No line before the block is the opening of a block. -/
theorem Wraps.opening_notMem (wraps : Wraps wrapper lines) (fills : Fills texts) :
    "    %\x7b".toList ∉ written texts (beforeBlock lines) := by
  intro member
  have percent := notMem_of_mem_written wraps.isSpelled_beforeBlock fills (c := '%') (by decide) _ member
  exact percent (by decide)

/-- What is written line by line is lines. -/
theorem Wraps.lineFeed_notMem (wraps : Wraps wrapper lines) (fills : Fills texts)
    (whole : ∀ line ∈ lines, '\n' ∉ line.toList) :
    ∀ line ∈ written texts wrapper.program.lines, '\n' ∉ line := by
  intro line member
  rw [wraps.written_eq] at member
  rcases List.mem_append.mp member with before | later
  · exact notMem_of_mem_written wraps.isSpelled_beforeBlock fills (by decide) line before
  · rcases List.mem_cons.mp later with rfl | later
    · decide
    · rcases List.mem_append.mp later with own | closing
      · obtain ⟨text, found, rfl⟩ := List.mem_map.mp own
        exact whole text found
      · rcases List.mem_cons.mp closing with rfl | results
        · change '\n' ∉ "    %\x7d".toList
          decide
        · exact notMem_of_mem_written (isSpelled_results wraps.named_outputs) fills (by decide) line
            results

/-! ### What can be read off -/

/-- **The text of a program tells the lines of its hint.** -/
theorem Wraps.lines_eq_of_write_eq (leftWraps : Wraps left leftLines)
    (rightWraps : Wraps right rightLines) (leftFills : Fills leftTexts)
    (rightFills : Fills rightTexts) (leftWhole : ∀ line ∈ leftLines, '\n' ∉ line.toList)
    (rightWhole : ∀ line ∈ rightLines, '\n' ∉ line.toList)
    (same : write leftTexts (ofLines left.program.lines) =
      write rightTexts (ofLines right.program.lines)) : leftLines = rightLines := by
  have texts := congrArg String.toList same
  rw [toList_write_ofLines, toList_write_ofLines] at texts
  have allLines := Text.terminated_injOn (leftWraps.lineFeed_notMem leftFills leftWhole)
    (rightWraps.lineFeed_notMem rightFills rightWhole) texts
  rw [leftWraps.written_eq, rightWraps.written_eq] at allLines
  obtain ⟨-, afterOpening⟩ := Text.mark_inj (leftWraps.opening_notMem leftFills)
    (rightWraps.opening_notMem rightFills) allLines
  -- The block ends three lines before the text does.
  have three (texts : PlaceholderId → String) (lines : List String) :
      (written texts (closingLines (outputsOf lines))).length = 3 := by
    rw [written, List.length_map]
    rfl
  obtain ⟨own, -⟩ := List.append_inj' afterOpening ((three _ _).trans (three _ _).symm)
  exact (List.map_inj_right fun _ _ => String.toList_injective).mp own

/-- Wrappers of the same lines have the same program. -/
theorem Wraps.program_eq (leftWraps : Wraps left lines) (rightWraps : Wraps right lines) :
    left.program = right.program :=
  leftWraps.program.trans rightWraps.program.symm

/-- What fills the slots of a hint's program can be read off the text. -/
theorem Wraps.texts_eq_of_write_eq (wraps : Wraps wrapper lines) (leftFills : Fills leftTexts)
    (rightFills : Fills rightTexts)
    (same : write leftTexts (ofLines wrapper.program.lines) =
      write rightTexts (ofLines wrapper.program.lines)) :
    ∀ id ∈ wrapper.placeholderIds, leftTexts id = rightTexts id := by
  have delimited : Delimited (ofLines wrapper.program.lines) :=
    delimited_ofLines fun _ => Program.delimited_of_mem_lines
  have notDelimiter : ∀ mark ∈ delimiters, ¬(mark = '$' ∨ Hint.isNameChar mark = true) := by
    intro mark isDelimiter
    rcases List.mem_cons.mp isDelimiter with rfl | later
    · decide
    · rcases List.mem_cons.mp later with rfl | last
      · decide
      · cases List.mem_singleton.mp last
        decide
  intro id member
  rw [wraps.ids, ← Program.slots_lines] at member
  exact delimited.write_inj (fun id _ mark found => leftFills.notMem (notDelimiter mark found) id)
    (fun id _ mark found => rightFills.notMem (notDelimiter mark found) id) same id member

end HintFuzz.Wrapper
