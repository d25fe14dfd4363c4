import HintFuzz.Proofs.Hint.Chains
import HintFuzz.Proofs.Hint.Signature
import Mathlib.Data.List.Infix

/-!
# Roots among the arguments of calls

A root is packed if a call of `pack` refers to it on the line on which the call starts, and
only then (`Hint.packingRule`): the arguments of a call reach to the matching bracket, but no
further than to the end of the line.  So `Hint.PacksCalls` does not hold: what a call refers to
on a later line is not packed, although the depth of the brackets is carried from line to line
(`Hint.spreadCall_unpacked`).
-/

namespace HintFuzz.Hint

/-! ### Brackets -/

/-- The brackets of code. -/
def brackets : List (Char × Char) :=
  [('(', ')'), ('[', ']'), ('{', '}')]

/-- A bracket of the code. -/
def Cell.IsBracket (cell : Cell) : Prop :=
  cell.lexeme = .code ∧ ∃ pair ∈ brackets, cell.char = pair.1 ∨ cell.char = pair.2

instance (cell : Cell) : Decidable cell.IsBracket :=
  inferInstanceAs (Decidable (cell.lexeme = .code ∧
    ∃ pair ∈ brackets, cell.char = pair.1 ∨ cell.char = pair.2))

/-- Code in which every bracket is closed by its own kind. -/
inductive Nested : List Cell → Prop
  | nil : Nested []
  | other {cell : Cell} {rest : List Cell} : ¬cell.IsBracket → Nested rest → Nested (cell :: rest)
  | group {opening closing : Char} {inner rest : List Cell} : (opening, closing) ∈ brackets →
    Nested inner → Nested rest →
      Nested (⟨opening, .code⟩ :: (inner ++ ⟨closing, .code⟩ :: rest))

/-- Of a parenthesis and `depth` more that are open before a stretch of code, the first one is
still open behind it: nowhere does the stretch close more than the others and its own. -/
def Unclosed (depth : Nat) (code : List Cell) : Prop :=
  ∀ passed, passed <+: code →
    passed.count ⟨')', .code⟩ ≤ depth + passed.count ⟨'(', .code⟩

section Unclosed

variable {depth : Nat} {cell : Cell} {code rest : List Cell}

/-- An empty stretch closes nothing. -/
theorem unclosed_nil (depth : Nat) : Unclosed depth [] := by
  intro passed front
  rw [List.prefix_nil.mp front]
  exact Nat.zero_le _

private theorem unclosed_cons : Unclosed depth (cell :: rest) ↔ ∀ passed, passed <+: rest →
    (cell :: passed).count ⟨')', .code⟩ ≤ depth + (cell :: passed).count ⟨'(', .code⟩ := by
  constructor
  · exact fun unclosed passed front => unclosed _ (List.cons_prefix_cons.mpr ⟨rfl, front⟩)
  · intro unclosed passed front
    rcases List.prefix_cons_iff.mp front with rfl | ⟨more, rfl, later⟩
    · exact Nat.zero_le _
    · exact unclosed more later

/-- Behind an opening parenthesis one more is open. -/
theorem unclosed_open : Unclosed depth (⟨'(', .code⟩ :: rest) ↔ Unclosed (depth + 1) rest := by
  rw [unclosed_cons]
  refine forall₂_congr fun passed _ => ?_
  rw [List.count_cons_self, List.count_cons_of_ne (by decide)]
  omega

/-- Behind a closing parenthesis one less is open. -/
theorem unclosed_close : Unclosed (depth + 1) (⟨')', .code⟩ :: rest) ↔ Unclosed depth rest := by
  rw [unclosed_cons]
  refine forall₂_congr fun passed _ => ?_
  rw [List.count_cons_self, List.count_cons_of_ne (by decide)]
  omega

/-- With no others open, a closing parenthesis closes the first one. -/
theorem not_unclosed_close : ¬Unclosed 0 (⟨')', .code⟩ :: rest) := fun unclosed =>
  absurd (unclosed_cons.mp unclosed [] List.nil_prefix) (by decide)

/-- Any other cell changes nothing. -/
theorem unclosed_other (noOpen : cell ≠ ⟨'(', .code⟩) (noClose : cell ≠ ⟨')', .code⟩) :
    Unclosed depth (cell :: rest) ↔ Unclosed depth rest := by
  rw [unclosed_cons]
  refine forall₂_congr fun passed _ => ?_
  rw [List.count_cons_of_ne noOpen, List.count_cons_of_ne noClose]

/-- A stretch that closes nothing leaves open what is open before it. -/
theorem Unclosed.append (unclosed : Unclosed depth code)
    (quiet : ⟨')', .code⟩ ∉ rest) : Unclosed depth (code ++ rest) := by
  intro passed front
  rw [List.prefix_iff_eq_take.mp front, List.take_append, List.count_append, List.count_append]
  have early := unclosed _ (List.take_prefix passed.length code)
  have late : (rest.take (passed.length - code.length)).count ⟨')', .code⟩ = 0 :=
    List.count_eq_zero.mpr fun member => quiet (List.mem_of_mem_take member)
  omega

/-- A front closes no more than the whole stretch does. -/
theorem Unclosed.of_append (unclosed : Unclosed depth (code ++ rest)) : Unclosed depth code :=
  fun passed front => unclosed passed (front.trans (List.prefix_append code rest))

/-- A nested stretch does not close the bracket around it. -/
theorem unclosed_append_of_nested (nested : Nested code) :
    Unclosed depth (code ++ rest) ↔ Unclosed depth rest := by
  induction nested generalizing depth rest with
  | nil => exact Iff.rfl
  | other plain _ ih =>
      rw [List.cons_append, unclosed_other, ih]
      · rintro rfl
        exact plain (by decide)
      · rintro rfl
        exact plain (by decide)
  | @group opening closing inner later pair _ _ inside behind =>
      rw [List.cons_append, List.append_assoc, List.cons_append]
      rcases List.mem_cons.mp pair with parentheses | others
      · cases parentheses
        rw [unclosed_open, inside, unclosed_close, behind]
      · -- Brackets of the other kinds do not count.
        have quiet : ∀ pair ∈ brackets.tail, (pair.1 ≠ '(' ∧ pair.1 ≠ ')') ∧
            pair.2 ≠ '(' ∧ pair.2 ≠ ')' := by decide
        obtain ⟨⟨openOpen, openClose⟩, closeOpen, closeClose⟩ := quiet _ others
        rw [unclosed_other, inside, unclosed_other, behind]
        · exact fun same => closeOpen (congrArg Cell.char same)
        · exact fun same => closeClose (congrArg Cell.char same)
        · exact fun same => openOpen (congrArg Cell.char same)
        · exact fun same => openClose (congrArg Cell.char same)

private theorem nested_of_forall (plain : ∀ cell ∈ code, ¬cell.IsBracket) : Nested code := by
  induction code with
  | nil => exact .nil
  | cons cell code ih =>
      exact .other (plain cell List.mem_cons_self) (ih fun later member =>
        plain later (List.mem_cons_of_mem _ member))

/-- Balanced code closes only what it has opened. -/
theorem Nested.unclosed (nested : Nested code) : Unclosed 0 code := by
  rw [← List.append_nil code, unclosed_append_of_nested nested]
  exact unclosed_nil 0

end Unclosed

/-! ### Closing -/

private theorem le_closingOffset (offset depth : Nat) (code : List Cell) :
    offset ≤ closingOffset offset depth code := by
  fun_induction closingOffset offset depth code with
  | case1 => exact Nat.le_refl _
  | case2 => omega
  | case3 => exact Nat.le_refl _
  | case4 => omega
  | case5 => omega

/-- A parenthesis is closed no earlier than behind a stretch of code if, and only if, the
stretch leaves it open. -/
theorem le_closingOffset_iff (offset depth : Nat) (code rest : List Cell) :
    offset + size code ≤ closingOffset offset depth (code ++ rest) ↔ Unclosed depth code := by
  -- The scanner and the prefixes lose the same character in each step.
  induction code generalizing offset depth with
  | nil => exact iff_of_true (le_closingOffset offset depth rest) (unclosed_nil depth)
  | cons cell code ih =>
      rw [List.cons_append, closingOffset.eq_def, size_cons, ← Nat.add_assoc]
      simp only
      split
      · next opens =>
          subst opens
          rw [unclosed_open]
          exact ih (offset + 1) (depth + 1)
      · split
        · next closes =>
            subst closes
            cases depth with
            | zero =>
                have closed : ¬offset + 1 + size code ≤ offset := by omega
                exact iff_of_false closed not_unclosed_close
            | succ depth =>
                rw [unclosed_close]
                exact ih (offset + 1) depth
        · next noOpen noClose =>
            rw [unclosed_other noOpen noClose]
            exact ih (offset + cell.char.utf8Size) depth

/-! ### Calls

The calls that are read on a line are those that its code spells out. -/

/-- The code of a line. -/
def lineCode (text : String) : List Cell :=
  cells .code [] text.toList

/-- The code of lines, one behind the other. -/
def codeOf (lines : List String) : List Cell :=
  lines.flatMap lineCode

/-- Characters of code. -/
def coded (text : List Char) : List Cell :=
  text.map (⟨·, .code⟩)

/-- Code calls `pack`: behind `ahead` and with `arguments` behind the bracket. -/
structure CallsPack (code ahead arguments : List Cell) : Prop where
  startsWord : ∀ last ∈ ahead.getLast?, isWord last.char = false
  spelled : ∃ blanks, (∀ c ∈ blanks, isBlank c = true) ∧
    code = ahead ++ (coded ("pack".toList ++ blanks ++ ['(']) ++ arguments)

section Calls

variable {text : String} {depth start : Nat} {site : Site} {ahead arguments : List Cell}

private theorem eq_coded {word : List Cell} (isCode : ∀ cell ∈ word, cell.lexeme = .code) :
    word = coded (word.map Cell.char) := by
  rw [coded, List.map_map]
  symm
  refine (List.map_congr_left fun cell member => ?_).trans (List.map_id word)
  exact congrArg (Cell.mk cell.char) (isCode cell member).symm

/-- A word starts where no character of a word stands before. -/
theorem Site.startsWord_iff (before : site.before = (ahead.map Cell.char).reverse ++ []) :
    site.startsWord = true ↔ ∀ last ∈ ahead.getLast?, isWord last.char = false := by
  have last : site.before.head? = ahead.getLast?.map Cell.char := by
    rw [before, List.append_nil, List.head?_reverse, List.getLast?_map]
  unfold startsWord
  cases found : ahead.getLast? with
  | none =>
      rw [found] at last
      rw [List.head?_eq_none_iff.mp last]
      exact iff_of_true rfl fun _ => nofun
  | some cell =>
      rw [found] at last
      obtain ⟨rest, same⟩ := List.head?_eq_some_iff.mp last
      simp [same]

/-- The name and the bracket of a call stand before its arguments. -/
theorem Site.exists_word_of_packCall? (called : site.packCall? = some (start, arguments)) :
    site.here = ⟨'p', .code⟩ ∧ site.startsWord = true ∧
      ∃ word blanks, site.after = word ++ arguments ∧ (∀ c ∈ blanks, isBlank c = true) ∧
        word.map Cell.char = "ack".toList ++ blanks ++ ['('] := by
  unfold packCall? at called
  split at called
  · next name =>
      obtain ⟨⟨lead, code⟩, named, same⟩ := Option.map_eq_some_iff.mp called
      cases same
      unfold argumentsAfter at named
      split at named
      · next a c k rest after =>
          obtain ⟨⟨more, code⟩, opened, same⟩ := Option.map_eq_some_iff.mp named
          cases same
          unfold openedAfter at opened
          split at opened
          · next lexeme arguments dropped =>
              cases opened
              refine ⟨name.1, name.2, [⟨'a', a⟩, ⟨'c', c⟩, ⟨'k', k⟩] ++
                rest.takeWhile (fun cell => isBlank cell.char) ++ [⟨'(', lexeme⟩],
                (rest.takeWhile fun cell => isBlank cell.char).map Cell.char, ?_, ?_, ?_⟩
              · rw [after, List.append_assoc, List.append_assoc, List.singleton_append, ← dropped,
                  List.takeWhile_append_dropWhile]
                rfl
              · intro d member
                obtain ⟨cell, cellMember, rfl⟩ := List.mem_map.mp member
                exact List.all_eq_true.mp List.all_takeWhile cell cellMember
              · rw [List.map_append, List.map_append]
                rfl
          · cases opened
      · cases named
  · cases called

/-- A name that is followed by blanks and a bracket is that of a call. -/
theorem Site.exists_packCall? {blanks : List Char} (here : site.here = ⟨'p', .code⟩)
    (starts : site.startsWord = true) (isBlanks : ∀ c ∈ blanks, isBlank c = true)
    (after : site.after = coded ("ack".toList ++ blanks ++ ['(']) ++ arguments) :
    ∃ start, site.packCall? = some (start, arguments) := by
  have opened : (coded blanks ++ ⟨'(', .code⟩ :: arguments).dropWhile
      (fun cell => isBlank cell.char) = ⟨'(', .code⟩ :: arguments := by
    rw [List.dropWhile_append_of_pos, List.dropWhile_cons_of_neg (by decide)]
    intro cell member
    obtain ⟨c, blank, rfl⟩ := List.mem_map.mp member
    exact isBlanks c blank
  have spelled : site.after = ⟨'a', .code⟩ :: ⟨'c', .code⟩ :: ⟨'k', .code⟩ ::
      (coded blanks ++ ⟨'(', .code⟩ :: arguments) := by
    rw [after, coded, List.map_append, List.map_append, List.append_assoc, List.append_assoc]
    rfl
  rw [packCall?, if_pos ⟨here, starts⟩, spelled, argumentsAfter.eq_1,
    openedAfter_of_bracket opened]
  exact ⟨_, rfl⟩

private theorem not_isQuote_of_spelling {blanks : List Char} {c : Char}
    (isBlanks : ∀ c ∈ blanks, isBlank c = true) (member : c ∈ "ack".toList ++ blanks ++ ['(']) :
    ¬IsQuote c := by
  intro isQuote
  rcases List.mem_append.mp member with found | bracket
  · rcases List.mem_append.mp found with letter | blank
    · exact isQuote.notMem (by decide) letter
    · exact Bool.false_ne_true (isQuote.not_isBlank.symm.trans (isBlanks c blank))
  · exact isQuote.notMem (by decide) bracket

/-- The name of a call that starts in code is code up to its bracket. -/
theorem eq_coded_of_spelling {word : List Cell} {blanks : List Char}
    (split : lineCode text = ahead ++ ⟨'p', .code⟩ :: (word ++ arguments))
    (isBlanks : ∀ c ∈ blanks, isBlank c = true)
    (spelling : word.map Cell.char = "ack".toList ++ blanks ++ ['(']) :
    word = coded ("ack".toList ++ blanks ++ ['(']) := by
  obtain ⟨_, _, goesOn⟩ := exists_cells_behind (by exact nofun : Mode.code.Plain) split
  -- No character of the spelling is a quote.
  rw [← spelling]
  refine eq_coded (lexeme_eq_code goesOn.symm fun cell cellMember => ?_)
  exact not_isQuote_of_spelling isBlanks (spelling ▸ List.mem_map_of_mem cellMember)

/-- What is read at a site is a call in the code. -/
theorem callsPack_of_packCall? (member : site ∈ (Line.scan depth text).sites)
    (called : site.packCall? = some (start, arguments)) :
    ∃ ahead, CallsPack (lineCode text) ahead arguments ∧ site.offset = size ahead ∧
      start + size arguments = size (lineCode text) := by
  obtain ⟨ahead, whole, placed, -, before⟩ := exists_of_mem_sites member
  obtain ⟨here, starts, word, blanks, after, isBlanks, spelling⟩ :=
    Site.exists_word_of_packCall? called
  rw [here, after] at whole
  have isCode := eq_coded_of_spelling whole isBlanks spelling
  refine ⟨ahead, ⟨?_, blanks, isBlanks, ?_⟩, placed.trans (Nat.zero_add _),
    (Site.size_packCall? called).trans (size_of_mem_sites member)⟩
  · exact (Site.startsWord_iff before).mp starts
  · rw [isCode] at whole
    exact whole

/-- A call in the code is read at its site. -/
theorem CallsPack.exists_site (calls : CallsPack (lineCode text) ahead arguments) (depth : Nat) :
    ∃ site ∈ (Line.scan depth text).sites, site.offset = size ahead ∧
      ∃ start, site.packCall? = some (start, arguments) ∧
        start + size arguments = size (lineCode text) := by
  obtain ⟨starts, blanks, isBlanks, spelled⟩ := calls
  have member := mem_sites 0 depth [] ahead ⟨'p', .code⟩
    (coded ("ack".toList ++ blanks ++ ['(']) ++ arguments)
  have whole : ahead ++ ⟨'p', .code⟩ :: (coded ("ack".toList ++ blanks ++ ['(']) ++ arguments) =
      (Line.scan depth text).cells := spelled.symm
  rw [whole] at member
  refine ⟨_, member, Nat.zero_add _,
    (exists_congr fun start => and_iff_left_of_imp fun called => ?_).mpr ?_⟩
  · exact (Site.size_packCall? called).trans (size_of_mem_sites member)
  · exact Site.exists_packCall? rfl ((Site.startsWord_iff rfl).mpr starts) isBlanks rfl

end Calls

/-! ### References -/

/-- A line refers to a root where `behind` is left of its code. -/
def RefersAt (text name : String) (behind : List Cell) : Prop :=
  ∃ site ∈ (Line.scan 0 text).sites, site.here :: site.after = behind ∧
    site.reference?.map Reference.root = some name

instance (text name : String) (behind : List Cell) : Decidable (RefersAt text name behind) :=
  List.decidableBEx (fun site : Site => site.here :: site.after = behind ∧
    site.reference?.map Reference.root = some name) _

/-- A reference chain takes the first characters of what is left of the code of its line. -/
structure Reference.Heads (reference : Reference) (text : String) (behind : List Cell) : Prop where
  suffix : behind <:+ lineCode text
  start : reference.span.start + size behind = size (lineCode text)
  chain : ∃ chain rest, behind = chain ++ rest ∧ (∀ cell ∈ chain, IsChainChar cell.char) ∧
    reference.span.stop = reference.span.start + size chain

section References

variable {text name : String} {depth start : Nat} {reference : Reference}
  {behind arguments : List Cell}

private theorem Site.heads_of_reference? {site : Site}
    (member : site ∈ (Line.scan depth text).sites)
    (found : site.reference? = some reference) :
    reference.Heads text (site.here :: site.after) := by
  obtain ⟨passed, whole, -⟩ := exists_of_mem_sites member
  obtain ⟨chain, rest, split, named, span⟩ := Site.exists_chain_of_reference? found
  refine ⟨⟨passed, whole.symm⟩, ?_, chain, rest, split, named, ?_⟩
  · rw [span]
    exact size_of_mem_sites member
  · rw [span]

/-- The brackets that are open before a line do not tell where chains start. -/
theorem exists_site_of_depth {site : Site} (member : site ∈ (Line.scan depth text).sites)
    (depth' : Nat) : ∃ depthHere, { site with depth := depthHere } ∈ (Line.scan depth' text).sites := by
  obtain ⟨passed, whole, placed, -, before⟩ := exists_of_mem_sites member
  have moved := mem_sites 0 depth' [] passed site.here site.after
  rw [← whole, ← before, ← placed] at moved
  exact ⟨_, moved⟩

private theorem refersAt_of_mem_references
    (member : reference ∈ (Line.scan depth text).references) :
    ∃ behind, RefersAt text reference.root behind ∧ reference.Heads text behind := by
  obtain ⟨site, siteMember, found⟩ := List.mem_filterMap.mp member
  obtain ⟨depthHere, same⟩ := exists_site_of_depth siteMember 0
  exact ⟨site.here :: site.after, ⟨_, same, rfl, congrArg (Option.map Reference.root) found⟩,
    Site.heads_of_reference? siteMember found⟩

private theorem RefersAt.exists_reference (refers : RefersAt text name behind) (depth : Nat) :
    ∃ reference ∈ (Line.scan depth text).references, reference.root = name ∧
      reference.Heads text behind := by
  obtain ⟨site, member, rfl, named⟩ := refers
  obtain ⟨reference, found, same⟩ := Option.map_eq_some_iff.mp named
  obtain ⟨depthHere, moved⟩ := exists_site_of_depth member depth
  exact ⟨reference, List.mem_filterMap.mpr ⟨_, moved, found⟩, same,
    Site.heads_of_reference? member found⟩

/-- The longer of two rests of a line ends with the other one. -/
theorem suffix_of_size_le {code left right : List Cell} (leftSuffix : left <:+ code)
    (rightSuffix : right <:+ code) (shorter : size left ≤ size right) : left <:+ right := by
  rcases List.suffix_or_suffix_of_suffix leftSuffix rightSuffix with suffix | ⟨more, rfl⟩
  · exact suffix
  · rw [size_append] at shorter
    rw [eq_nil_of_size_eq_zero (by omega : size more = 0)]
    exact List.suffix_refl right

/-- A chain stands between the brackets of a call if it is behind the first one, and that one
is not closed before it. -/
theorem Reference.Heads.within_iff (heads : reference.Heads text behind)
    (suffix : arguments <:+ lineCode text) (placed : start + size arguments = size (lineCode text)) :
    (start ≤ reference.span.start ∧ reference.span.stop ≤ closingOffset start 0 arguments) ↔
      ∃ inside, arguments = inside ++ behind ∧ Unclosed 0 inside := by
  obtain ⟨behindSuffix, total, chain, rest, rfl, named, stop⟩ := heads
  constructor
  · rintro ⟨later, closed⟩
    obtain ⟨inside, rfl⟩ := suffix_of_size_le behindSuffix suffix (by omega)
    refine ⟨inside, rfl, (le_closingOffset_iff start 0 inside (chain ++ rest)).mp ?_⟩
    rw [size_append] at placed
    omega
  · rintro ⟨inside, rfl, unclosed⟩
    -- No character of a chain is a bracket.
    have quiet : ⟨')', .code⟩ ∉ chain := fun member => absurd (named _ member) (by decide)
    have closed := (le_closingOffset_iff start 0 (inside ++ chain) rest).mpr (unclosed.append quiet)
    rw [List.append_assoc, size_append] at closed
    rw [size_append] at placed
    omega

end References

/-! ### Lines -/

/-- A call on a line refers to a root on the line, behind its bracket and before that is
closed. -/
def PackedOn (text name : String) : Prop :=
  ∃ ahead inside behind, CallsPack (lineCode text) ahead (inside ++ behind) ∧
    Unclosed 0 inside ∧ RefersAt text name behind

/-- The arguments of a call stand at the end of the code. -/
theorem CallsPack.suffix {code ahead arguments : List Cell}
    (calls : CallsPack code ahead arguments) : arguments <:+ code := by
  obtain ⟨-, blanks, -, rfl⟩ := calls
  rw [← List.append_assoc]
  exact List.suffix_append _ _

/-- Which roots are packed on a line, whatever brackets are open before it. -/
theorem exists_occurrence_iff (depth : Nat) (text name : String) :
    (∃ occurrence ∈ (Line.scan depth text).occurrences,
      occurrence.root = name ∧ occurrence.packed = true) ↔ PackedOn text name := by
  constructor
  · rintro ⟨occurrence, member, rfl, packed⟩
    obtain ⟨reference, found, rfl⟩ := List.mem_map.mp member
    obtain ⟨span, spanMember, within⟩ := List.any_eq_true.mp packed
    obtain ⟨site, siteMember, called⟩ := List.mem_filterMap.mp spanMember
    rw [Site.pack?_eq] at called
    obtain ⟨⟨start, arguments⟩, read, rfl⟩ := Option.map_eq_some_iff.mp called
    obtain ⟨ahead, calls, -, placed⟩ := callsPack_of_packCall? siteMember read
    obtain ⟨behind, refers, heads⟩ := refersAt_of_mem_references found
    obtain ⟨inside, rfl, unclosed⟩ :=
      (heads.within_iff calls.suffix placed).mp (of_decide_eq_true within)
    exact ⟨ahead, inside, behind, calls, unclosed, refers⟩
  · rintro ⟨ahead, inside, behind, calls, unclosed, refers⟩
    obtain ⟨site, siteMember, -, start, called, placed⟩ := calls.exists_site depth
    obtain ⟨reference, found, rfl, heads⟩ := refers.exists_reference depth
    refine ⟨_, List.mem_map_of_mem found, rfl, List.any_eq_true.mpr
      ⟨⟨start, closingOffset start 0 (inside ++ behind)⟩, ?_, decide_eq_true ?_⟩⟩
    · refine List.mem_filterMap.mpr ⟨site, siteMember, ?_⟩
      rw [Site.pack?_eq, called]
      rfl
    · exact (heads.within_iff calls.suffix placed).mpr ⟨inside, rfl, unclosed⟩

private theorem exists_occurrence_lines_iff (depth : Nat) (lines : List String) (name : String) :
    (∃ occurrence ∈ occurrences depth lines,
      occurrence.root = name ∧ occurrence.packed = true) ↔ ∃ text ∈ lines, PackedOn text name := by
  induction lines generalizing depth with
  | nil => exact iff_of_false (fun ⟨_, member, _⟩ => nomatch member) fun ⟨_, member, _⟩ => nomatch member
  | cons text rest ih =>
      rw [occurrences]
      simp only [List.mem_append, List.mem_cons, or_and_right, exists_or, exists_eq_left, ih,
        exists_occurrence_iff]

/-! ### Calls over several lines -/

/-- Lines refer to a root on one of them, where `behind` is left of the code of the lines. -/
def RefersTo (lines : List String) (line : Nat) (name : String) (behind : List Cell) : Prop :=
  ∃ text later own, lines.drop line = text :: later ∧ RefersAt text name own ∧
    behind = own ++ codeOf later

/-- A call that starts on the first of some lines and ends on one of them refers to a root on
the line of a number.  Of its arguments, `inside` stands before the reference, and `more` is
the rest of them up to the matching bracket. -/
inductive InCall (name : String) : List String → Nat → Prop
  | mk {text : String} {later : List String} {line : Nat}
      {ahead arguments inside more rest : List Cell}
      (calls : CallsPack (lineCode text) ahead arguments)
      (ends : arguments ++ codeOf later = inside ++ (more ++ ⟨')', .code⟩ :: rest))
      (nested : Nested (inside ++ more))
      (refers : RefersTo (text :: later) line name (more ++ ⟨')', .code⟩ :: rest)) :
      InCall name (text :: later) line

/-- What a call refers to on the line on which it starts is packed on that line. -/
theorem InCall.packedOn {name text : String} {later : List String}
    (inCall : InCall name (text :: later) 0) : PackedOn text name := by
  cases inCall with
  | @mk _ _ _ ahead arguments inside more rest calls ends nested refers =>
      obtain ⟨_, _, own, here, refersAt, behind⟩ := refers
      obtain ⟨rfl, rfl⟩ := List.cons.inj here
      -- What later lines add to the call is behind the reference.
      rw [behind, ← List.append_assoc] at ends
      rw [List.append_cancel_right ends] at calls
      exact ⟨ahead, inside, own, calls, nested.unclosed.of_append, refersAt⟩

/-- Whatever a call refers to is packed, on whichever line of it. -/
def PacksCalls (hint : Hint) (signature : Signature) : Prop :=
  ∀ start line name, InCall name (hint.lines.drop start) line → signature.Packs name

/-- Which roots of a hint are packed. -/
structure PackingRule (hint : Hint) (signature : Signature) : Prop where
  /-- Whatever a call refers to on the line on which it starts is packed, on whichever line it
  ends. -/
  packs : ∀ start name, InCall name (hint.lines.drop start) 0 → signature.Packs name
  /-- A root is packed if a line on which a call starts refers to it between the bracket of
  the call and the end of the line or the matching bracket, and only then. -/
  packs_iff : ∀ name, signature.Packs name ↔ ∃ text ∈ hint.lines, PackedOn text name

/-- **A call packs what it refers to on the line on which it starts**, and nothing else is
packed. -/
theorem packingRule {hint : Hint} {signature : Signature}
    (analyzed : hint.analyze = .ok signature) : PackingRule hint signature := by
  have rule (name : String) :
      signature.Packs name ↔ ∃ text ∈ hint.lines, PackedOn text name :=
    (packs_iff_exists_occurrence analyzed).trans (exists_occurrence_lines_iff 0 hint.lines name)
  refine ⟨fun start name inCall => (rule name).mpr ?_, rule⟩
  cases lines : hint.lines.drop start with
  | nil =>
      rw [lines] at inCall
      cases inCall
  | cons text later =>
      rw [lines] at inCall
      exact ⟨text, List.mem_of_mem_drop (lines ▸ List.mem_cons_self), inCall.packedOn⟩

/-- Two calls, the first of which goes on over the second and to the end of the hint. -/
def nestedCalls : Hint :=
  ⟨0, ["ids.r = g(pack(f(ids.a, ')'), ids.b,", "    ids.c, pack (ids.d[0]), ids.e))"]⟩

/-- Packed are the roots of the first line that stand in its call, and the root of the second call.
-/
theorem nestedCalls_packing :
    ∃ signature, nestedCalls.analyze = .ok signature ∧
      signature.roots.map (fun root => (root.name, root.packed)) =
        [("a", true), ("b", true), ("c", false), ("d", true), ("e", false), ("r", false)] ∧
      PackingRule nestedCalls signature := by
  have analyzed : nestedCalls.analyze = .ok ⟨0, [⟨"a", .input, [[]], true⟩,
      ⟨"b", .input, [[]], true⟩, ⟨"c", .input, [[]], false⟩, ⟨"d", .input, [[]], true⟩,
      ⟨"e", .input, [[]], false⟩, ⟨"r", .output, [[]], false⟩]⟩ := by
    decide +kernel
  exact ⟨_, analyzed, rfl, packingRule analyzed⟩

/-- A call on two lines. -/
def spreadCall : Hint :=
  ⟨0, ["x = pack(", "    ids.a, PRIME)"]⟩

/-- The bracket of the call is still open behind its first line, and yet the root to which it
refers on the second line is not packed. -/
theorem spreadCall_unpacked :
    (Line.scan 0 "x = pack(").closingDepth = 1 ∧
      ∃ signature, spreadCall.analyze = .ok signature ∧ ¬PacksCalls spreadCall signature := by
  have analyzed : spreadCall.analyze = .ok ⟨0, [⟨"a", .input, [[]], false⟩]⟩ := by decide +kernel
  have calls : CallsPack (lineCode "x = pack(") (coded "x = ".toList) [] :=
    ⟨by decide +kernel, [], fun _ => nofun, by decide +kernel⟩
  have nested : Nested (coded "    ".toList ++ coded "ids.a, PRIME".toList) :=
    nested_of_forall (by decide +kernel)
  have refers : RefersTo spreadCall.lines 1 "a" (coded "ids.a, PRIME".toList ++ [⟨')', .code⟩]) :=
    ⟨"    ids.a, PRIME)", [], coded "ids.a, PRIME)".toList, rfl, by decide +kernel, by decide +kernel⟩
  have inCall : InCall "a" spreadCall.lines 1 := .mk calls (by decide +kernel) nested refers
  refine ⟨by decide +kernel, _, analyzed, fun packs => ?_⟩
  obtain ⟨root, member, -, packed⟩ := packs 0 1 "a" inCall
  rw [List.mem_singleton.mp member] at packed
  cases packed

end HintFuzz.Hint
