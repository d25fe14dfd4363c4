import HintFuzz.Hint.Lexeme

/-!
# Comments and literals of a line

A line is read stretch by stretch (`Hint.cells_append`).  What follows the hash of a
comment is not read, and a plain string literal is read as one stretch of cells that are
marked as text, whatever it holds (`Hint.cells_literal`).  What stands before a character that
is not one of names is forgotten behind it (`Hint.cells_behind`).  Code goes on up to the next
quote (`Hint.lexeme_eq_code`) and back to the last one (`Hint.lexeme_eq_code_before`).
-/

namespace HintFuzz.Hint

variable {mode : Mode} {before : List Char}

/-! ### Characters of names -/

/-- What may start a name may stand in it. -/
theorem isNameChar_of_isNameStart {c : Char} (start : isNameStart c = true) :
    isNameChar c = true := by
  unfold isNameStart at start
  unfold isNameChar
  rw [Bool.or_eq_true] at start ⊢
  rcases start with letter | underscore
  · left
    rw [Char.isAlphanum, letter, Bool.true_or]
  · exact .inr underscore

/-- What is taken from the front of a text ends where a character stops it. -/
theorem takeWhile_append_stop {Unit : Type} {goesOn : Unit → Bool} {c : Unit}
    (stop : goesOn c = false) (text rest : List Unit) :
    (text ++ c :: rest).takeWhile goesOn = text.takeWhile goesOn ∧
      (text ++ c :: rest).dropWhile goesOn = text.dropWhile goesOn ++ c :: rest := by
  induction text with
  | nil => simp [stop]
  | cons d text ih =>
      rw [List.cons_append, List.takeWhile_cons, List.takeWhile_cons, List.dropWhile_cons,
        List.dropWhile_cons, ih.1, ih.2]
      split
      · exact ⟨rfl, rfl⟩
      · exact ⟨rfl, rfl⟩

/-! ### Stretches -/

/-- A comment goes on to the end of the line. -/
theorem after_comment (before text : List Char) : Mode.comment.after before text = .comment := by
  induction text generalizing before with
  | nil => rfl
  | cons c rest ih => exact ih (c :: before)

/-- Comments have no cells. -/
theorem cells_comment (before text : List Char) : cells .comment before text = [] := by
  cases text <;> rfl

/-- Only comments have characters that do not count. -/
theorem read_none {c : Char} {next : Mode} (skipped : mode.read before c = (none, next)) :
    next = .comment := by
  unfold Mode.read at skipped
  split at skipped
  · exact (Prod.mk.inj skipped).2.symm
  · cases skipped
  · split at skipped
    · cases skipped
    · split at skipped <;> cases skipped
  · split at skipped
    · exact (Prod.mk.inj skipped).2.symm
    · split at skipped <;> cases skipped

/-- A line is read stretch by stretch. -/
theorem cells_append (mode : Mode) (before left right : List Char) :
    cells mode before (left ++ right) =
      cells mode before left ++
        cells (mode.after before left) (left.reverse ++ before) right := by
  induction left generalizing mode before with
  | nil => rfl
  | cons c left ih =>
      rw [List.cons_append, cells, cells, Mode.after]
      cases read : mode.read before c with
      | mk lexeme? next =>
          cases lexeme? with
          | none =>
              cases read_none read
              rw [after_comment, cells_comment, List.append_nil]
          | some lexeme =>
              simp only [ih, List.reverse_cons, List.append_assoc, List.cons_append,
                List.nil_append]

/-- All of a line counts unless it ends in a comment. -/
theorem chars_cells {mode : Mode} {before text : List Char}
    (counts : mode.after before text ≠ .comment) : (cells mode before text).map Cell.char = text := by
  induction text generalizing mode before with
  | nil => rfl
  | cons c rest ih =>
      rw [cells]
      rw [Mode.after] at counts
      cases read : mode.read before c with
      | mk lexeme? next =>
          rw [read] at counts
          cases lexeme? with
          | none =>
              cases read_none read
              exact absurd (after_comment _ _) counts
          | some lexeme => exact congrArg (c :: ·) (ih counts)

/-! ### Literals -/

/-- The characters that string literals stand between. -/
def IsQuote (quote : Char) : Prop :=
  quote = '\'' ∨ quote = '"'

/-- A text that a literal can hold as it is: neither its quote nor an escape. -/
def Holds (quote : Char) (text : List Char) : Prop :=
  ∀ c ∈ text, c ≠ quote ∧ c ≠ '\\'

instance (quote : Char) (text : List Char) : Decidable (Holds quote text) :=
  List.decidableBAll (fun c => c ≠ quote ∧ c ≠ '\\') text

instance (c : Char) : Decidable (IsQuote c) :=
  inferInstanceAs (Decidable (c = '\'' ∨ c = '"'))

/-- A quote is none of the other characters. -/
theorem IsQuote.ne {quote c : Char} (isQuote : IsQuote quote) (other : ¬ IsQuote c) : quote ≠ c :=
  fun same => other (same ▸ isQuote)

/-- There is no quote among other characters. -/
theorem IsQuote.notMem {quote : Char} (isQuote : IsQuote quote) {text : List Char}
    (others : text.all (fun c => ¬ IsQuote c) = true) : quote ∉ text := fun member =>
  of_decide_eq_true (List.all_eq_true.mp others quote member) isQuote

/-- A quote is not blank. -/
theorem IsQuote.not_isBlank {quote : Char} (isQuote : IsQuote quote) :
    HintFuzz.isBlank quote = false := by
  rcases isQuote with rfl | rfl <;> rfl

/-- A quote cannot stand in a name. -/
theorem IsQuote.not_isNameChar {quote : Char} (isQuote : IsQuote quote) :
    isNameChar quote = false := by
  rcases isQuote with rfl | rfl <;> rfl

/-- The cells of a plain literal. -/
def literal (quote : Char) (text : List Char) : List Cell :=
  (quote :: text ++ [quote]).map (⟨·, .text⟩)

private theorem read_quote {quote : Char} (isQuote : IsQuote quote)
    (plain : marksFormat before = false) :
    Mode.code.read before quote = (some .text, .literal quote .text false) := by
  rcases isQuote with rfl | rfl <;> simp [Mode.read, plain]

private theorem read_inside {quote c : Char} {kind : Lexeme} (noQuote : c ≠ quote)
    (noEscape : c ≠ '\\') :
    (Mode.literal quote kind false).read before c = (some kind, .literal quote kind false) := by
  rw [Mode.read, if_neg noEscape, if_neg noQuote]

private theorem read_close {quote : Char} {kind : Lexeme} (isQuote : IsQuote quote) :
    (Mode.literal quote kind false).read before quote = (some kind, .code) := by
  rcases isQuote with rfl | rfl <;> simp [Mode.read]

/-- Inside a literal nothing but its quote and escapes is told apart. -/
theorem cells_inside {quote : Char} {text : List Char} (isQuote : IsQuote quote)
    (holds : Holds quote text) (before rest : List Char) :
    cells (.literal quote .text false) before (text ++ quote :: rest) =
      (text ++ [quote]).map (⟨·, .text⟩) ++
        cells .code (quote :: (text.reverse ++ before)) rest := by
  induction text generalizing before with
  | nil =>
      rw [List.nil_append, cells, read_close isQuote]
      rfl
  | cons c text ih =>
      obtain ⟨noQuote, noEscape⟩ := holds c List.mem_cons_self
      have later := ih (fun d member => holds d (List.mem_cons_of_mem _ member)) (c :: before)
      simp only [List.cons_append, cells, read_inside noQuote noEscape, later, List.map_cons,
        List.reverse_cons, List.append_assoc, List.nil_append]

/-- A plain literal is a stretch of text, behind which the line is code again. -/
theorem cells_literal {quote : Char} {text : List Char} (isQuote : IsQuote quote)
    (plain : marksFormat before = false) (holds : Holds quote text) (rest : List Char) :
    cells .code before (quote :: (text ++ quote :: rest)) =
      literal quote text ++ cells .code (quote :: (text.reverse ++ quote :: before)) rest := by
  rw [cells, read_quote isQuote plain]
  simp only [cells_inside isQuote holds (quote :: before) rest, literal, List.cons_append,
    List.map_cons]

/-! ### Behind a separator -/

/-- The word before a place ends at the first character to its left that is not one of names. -/
theorem marksFormat_behind {stop : Char} (noName : isNameChar stop = false)
    (near far : List Char) : marksFormat (near ++ stop :: far) = marksFormat near := by
  rw [marksFormat, marksFormat, (takeWhile_append_stop noName near far).1]

private theorem read_behind {stop : Char} (noName : isNameChar stop = false) (mode : Mode)
    (near far : List Char) (c : Char) :
    mode.read (near ++ stop :: far) c = mode.read near c := by
  unfold Mode.read
  rw [marksFormat_behind noName near far]

/-- Behind such a character a line is read as if it started there. -/
theorem cells_behind {stop : Char} (noName : isNameChar stop = false) (mode : Mode)
    (near far text : List Char) :
    cells mode (near ++ stop :: far) text = cells mode near text := by
  induction text generalizing mode near with
  | nil => rfl
  | cons c rest ih =>
      rw [cells, cells, read_behind noName]
      cases mode.read near c with
      | mk lexeme? next =>
          cases lexeme? with
          | none => rfl
          | some lexeme => exact congrArg (Cell.mk c lexeme :: ·) (ih next (c :: near))

/-! ### Behind code -/

/-- The mode takes no literal for code. -/
def Mode.Plain (mode : Mode) : Prop :=
  ∀ quote escaped, mode ≠ .literal quote .code escaped

/-- A mode that takes no literal for code takes none for it after a character. -/
theorem Mode.Plain.read (plain : mode.Plain) (before : List Char) (c : Char) :
    (mode.read before c).2.Plain := by
  cases mode with
  | comment => exact nofun
  | literal quote kind escaped =>
      have still (escaped : Bool) : (Mode.literal quote kind escaped).Plain := by
        rintro _ other ⟨⟩
        exact plain quote _ rfl
      cases escaped with
      | true => exact still false
      | false =>
          rw [Mode.read]
          split
          · exact still true
          · split
            · exact nofun
            · exact still false
  | code =>
      rw [Mode.read]
      split
      · exact nofun
      · split
        · simp only
          split <;> exact nofun
        · exact nofun

/-- Whatever stands in a literal is part of it. -/
theorem read_literal (quote : Char) (kind : Lexeme) (escaped : Bool) (before : List Char) (c : Char) :
    ((Mode.literal quote kind escaped).read before c).1 = some kind := by
  cases escaped with
  | true => rfl
  | false =>
      rw [Mode.read]
      split
      · rfl
      · split <;> rfl

/-- Code is read where neither a literal nor a comment starts. -/
theorem read_code {c : Char} {next : Mode} (plain : mode.Plain)
    (read : mode.read before c = (some .code, next)) : next = .code := by
  cases mode with
  | comment => cases read
  | literal quote kind escaped =>
      have isKind := read_literal quote kind escaped before c
      rw [read] at isKind
      cases isKind
      exact absurd rfl (plain quote escaped)
  | code =>
      rw [Mode.read] at read
      split at read
      · cases read
      · split at read
        · have isKind := Option.some.inj (congrArg Prod.fst read)
          split at isKind <;> cases isKind
        · exact (Prod.mk.inj read).2.symm

/-- Behind a character of code the line is read as code. -/
theorem exists_cells_behind {text : List Char} {ahead rest : List Cell} {c : Char}
    (plain : mode.Plain) (split : cells mode before text = ahead ++ ⟨c, .code⟩ :: rest) :
    ∃ before text, rest = cells .code before text := by
  induction text generalizing mode before ahead with
  | nil => exact absurd split.symm (List.append_ne_nil_of_right_ne_nil _ (List.cons_ne_nil _ _))
  | cons d text ih =>
      rw [cells] at split
      rcases read : mode.read before d with ⟨_ | lexeme, next⟩
      · rw [read] at split
        exact absurd split.symm (List.append_ne_nil_of_right_ne_nil _ (List.cons_ne_nil _ _))
      · rw [read] at split
        cases ahead with
        | nil =>
            obtain ⟨same, rfl⟩ := List.cons.inj split
            cases same
            cases read_code plain read
            exact ⟨_, _, rfl⟩
        | cons first ahead =>
            have later : next.Plain := by
              have after := plain.read before d
              rwa [read] at after
            exact ih later (List.cons.inj split).2

/-- Where a line is read as code, it is code up to the next quote. -/
theorem lexeme_eq_code {text : List Char} {word rest : List Cell}
    (split : cells .code before text = word ++ rest)
    (unquoted : ∀ cell ∈ word, ¬ IsQuote cell.char) : ∀ cell ∈ word, cell.lexeme = .code := by
  induction word generalizing before text with
  | nil => exact fun _ => nofun
  | cons first word ih =>
      cases text with
      | nil => cases split
      | cons c text =>
          rw [cells, Mode.read] at split
          split at split
          · next read =>
              -- A quote is no character of the word.
              split at read
              · cases read
              · split at read
                · next quote =>
                    have same := congrArg Cell.char (List.cons.inj split).1
                    exact absurd (same ▸ quote) (unquoted first List.mem_cons_self)
                · cases read
                  obtain ⟨rfl, later⟩ := List.cons.inj split
                  have rest := ih later fun cell member =>
                    unquoted cell (List.mem_cons_of_mem _ member)
                  rintro cell (_ | ⟨_, member⟩)
                  · rfl
                  · exact rest cell member
          · cases split

/-! ### Before code -/

/-- The mode takes no other character than quotes for the start of a literal. -/
def Mode.Quoted (mode : Mode) : Prop :=
  ∀ quote kind escaped, mode = .literal quote kind escaped → IsQuote quote

/-- Only quotes start literals, whatever is read. -/
theorem Mode.Quoted.read (quoted : mode.Quoted) (before : List Char) (c : Char) :
    (mode.read before c).2.Quoted := by
  cases mode with
  | comment => exact nofun
  | literal quote kind escaped =>
      have still (escaped : Bool) : (Mode.literal quote kind escaped).Quoted := by
        rintro _ _ _ ⟨⟩
        exact quoted quote _ _ rfl
      cases escaped with
      | true => exact still false
      | false =>
          rw [Mode.read]
          split
          · exact still true
          · split
            · exact nofun
            · exact still false
  | code =>
      rw [Mode.read]
      split
      · exact nofun
      · split
        · next isQuote =>
            rintro _ _ _ ⟨⟩
            exact isQuote
        · exact nofun

/-- A character behind which code is read is code itself, or the quote that ends a literal. -/
theorem lexeme_eq_code_of_read (quoted : mode.Quoted) {c : Char} {lexeme : Lexeme}
    (read : mode.read before c = (some lexeme, .code)) (noQuote : ¬IsQuote c) : lexeme = .code := by
  cases mode with
  | comment => cases read
  | literal quote kind escaped =>
      cases escaped with
      | true => cases read
      | false =>
          rw [Mode.read] at read
          split at read
          · cases read
          · split at read
            · next same => exact absurd (same ▸ quoted quote _ _ rfl) noQuote
            · cases read
  | code =>
      rw [Mode.read] at read
      split at read
      · cases read
      · split at read
        · next isQuote => exact absurd isQuote noQuote
        · cases read
          rfl

/-- Code is read in no other mode. -/
theorem eq_code_of_cells {text : List Char} {c : Char} {rest : List Cell} (plain : mode.Plain)
    (split : cells mode before text = ⟨c, .code⟩ :: rest) : mode = .code := by
  cases text with
  | nil => cases split
  | cons d text =>
      rw [cells] at split
      cases mode with
      | code => rfl
      | comment => cases split
      | literal quote kind escaped =>
          have isKind := read_literal quote kind escaped before d
          rcases read : (Mode.literal quote kind escaped).read before d with ⟨_ | lexeme, next⟩
          · rw [read] at split
            cases split
          · rw [read] at split isKind
            cases isKind
            cases congrArg Cell.lexeme (List.cons.inj split).1
            exact absurd rfl (plain quote escaped)

/-- Before code a line is read as code back to the last quote. -/
theorem lexeme_eq_code_before {text : List Char} {ahead rest : List Cell} {cell : Cell} {c : Char}
    (plain : mode.Plain) (quoted : mode.Quoted)
    (split : cells mode before text = ahead ++ cell :: ⟨c, .code⟩ :: rest)
    (noQuote : ¬IsQuote cell.char) : cell.lexeme = .code := by
  induction text generalizing mode before ahead with
  | nil => exact absurd split.symm (List.append_ne_nil_of_right_ne_nil _ (List.cons_ne_nil _ _))
  | cons d text ih =>
      rw [cells] at split
      rcases read : mode.read before d with ⟨_ | lexeme, next⟩
      · rw [read] at split
        exact absurd split.symm (List.append_ne_nil_of_right_ne_nil _ (List.cons_ne_nil _ _))
      · have plainAfter := plain.read before d
        have quotedAfter := quoted.read before d
        rw [read] at split plainAfter quotedAfter
        cases ahead with
        | nil =>
            obtain ⟨rfl, later⟩ := List.cons.inj split
            cases eq_code_of_cells plainAfter later
            exact lexeme_eq_code_of_read quoted read noQuote
        | cons first ahead => exact ih plainAfter quotedAfter (List.cons.inj split).2

end HintFuzz.Hint
