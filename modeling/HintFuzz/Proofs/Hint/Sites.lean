import HintFuzz.Hint.Line
import HintFuzz.Proofs.Hint.Lexing
import HintFuzz.Proofs.Text.Utf8
import Mathlib.Data.List.Basic

/-!
# What a site sees

A line that is made of stretches has the sites of the stretches (`Hint.sites_append`).  What is
read at a site does not depend on what stands beyond the separators around it (`Local`): neither
chains (`Hint.local_reference?` in `HintFuzz.Proofs.Hint.Chains`) nor operators
(`Hint.local_operator?`) reach across them.  So a line with a stretch that starts and ends with
a separator is read as the stretches on its two sides are (`Local.filterMap_sites`).  Calls reach
across blanks, but not across quotes (`Site.packCall?_followedBy`).
-/

namespace HintFuzz.Hint

/-! ### Sizes -/

/-- How many bytes a stretch of code takes. -/
abbrev size (cells : List Cell) : Nat :=
  Text.width (cells.map Cell.char)

/-- The size of code is counted cell by cell. -/
theorem size_cons (cell : Cell) (rest : List Cell) :
    size (cell :: rest) = cell.char.utf8Size + size rest :=
  rfl

/-- The sizes of two stretches of code add up. -/
theorem size_append (left right : List Cell) : size (left ++ right) = size left + size right := by
  rw [size, List.map_append, Text.width_append]

/-- Only empty code has no size. -/
theorem eq_nil_of_size_eq_zero {cells : List Cell} (none : size cells = 0) : cells = [] :=
  List.map_eq_nil_iff.mp (Text.eq_nil_of_width_eq_zero none)

/-! ### Sites of stretches -/

/-- A site with more code at the end of its line. -/
def Site.followedBy (site : Site) (rest : List Cell) : Site :=
  { site with after := site.after ++ rest }

/-- A site with more code at the start of its line. -/
def Site.moved (site : Site) (offset : Nat) (far : List Char) : Site :=
  { site with offset := offset + site.offset, before := site.before ++ far }

/-- The sites of two stretches are those of the first, followed by the second, and those of the
second, moved behind the first. -/
theorem sites_append (offset depth : Nat) (before : List Char) (left right : List Cell) :
    sites offset depth before (left ++ right) =
      (sites offset depth before left).map (·.followedBy right) ++
        sites (offset + size left) (left.foldl depthAfter depth)
          ((left.map Cell.char).reverse ++ before) right := by
  induction left generalizing offset depth before with
  | nil => rfl
  | cons cell left ih =>
      simp only [List.cons_append, sites, ih, List.map_cons, List.foldl_cons, List.reverse_cons,
        List.append_assoc, List.nil_append, size, Text.width_cons, Nat.add_assoc, Site.followedBy]

private theorem sites_moved (shift offset depth : Nat) (near far : List Char) (text : List Cell) :
    sites (shift + offset) depth (near ++ far) text =
      (sites offset depth near text).map (·.moved shift far) := by
  induction text generalizing offset depth near with
  | nil => rfl
  | cons cell rest ih =>
      rw [sites, sites, List.map_cons, ← ih, Nat.add_assoc]
      rfl

/-- Where a site of a stretch stands. -/
theorem exists_of_mem_sites {offset depth : Nat} {before : List Char} {text : List Cell}
    {site : Site} (member : site ∈ sites offset depth before text) :
    ∃ passed, text = passed ++ site.here :: site.after ∧ site.offset = offset + size passed ∧
      site.depth = passed.foldl depthAfter depth ∧
      site.before = (passed.map Cell.char).reverse ++ before := by
  induction text generalizing offset depth before with
  | nil => cases member
  | cons cell rest ih =>
      rcases List.mem_cons.mp member with rfl | later
      · exact ⟨[], rfl, rfl, rfl, rfl⟩
      · obtain ⟨passed, rfl, placed, deep, behind⟩ := ih later
        refine ⟨cell :: passed, rfl, ?_, deep, ?_⟩
        · rw [placed, size_cons, Nat.add_assoc]
        · rw [behind, List.map_cons, List.reverse_cons, List.append_assoc]
          rfl

/-- Sites are in the order of their offsets. -/
theorem pairwise_offset_sites (offset depth : Nat) (before : List Char) (text : List Cell) :
    (sites offset depth before text).Pairwise (·.offset < ·.offset) := by
  induction text generalizing offset depth before with
  | nil => exact .nil
  | cons cell rest ih =>
      refine List.pairwise_cons.mpr ⟨fun site later => ?_, ih _ _ _⟩
      obtain ⟨passed, -, placed, -⟩ := exists_of_mem_sites later
      have width := cell.char.utf8Size_pos
      simp only
      omega

/-- There is a site at each place of a stretch. -/
theorem mem_sites (offset depth : Nat) (before : List Char) (passed : List Cell) (here : Cell)
    (after : List Cell) :
    ⟨offset + size passed, passed.foldl depthAfter depth,
        (passed.map Cell.char).reverse ++ before, here, after⟩ ∈
      sites offset depth before (passed ++ here :: after) := by
  rw [sites_append]
  exact List.mem_append_right _ List.mem_cons_self

/-- A site of a line, with the code up to there. -/
theorem size_of_mem_sites {depth : Nat} {text : List Cell} {site : Site}
    (member : site ∈ sites 0 depth [] text) :
    site.offset + size (site.here :: site.after) = size text := by
  obtain ⟨passed, whole, placed, -, -⟩ := exists_of_mem_sites member
  rw [placed, Nat.zero_add, ← size_append, ← whole]

/-! ### Spans -/

/-- A span further to the right. -/
def Span.moved (span : Span) (offset : Nat) : Span :=
  ⟨offset + span.start, offset + span.stop⟩

/-! ### Separators -/

/-- A character that is no part of chains and operators, so that neither reach across it. -/
structure Separates (c : Char) : Prop where
  word : isWord c = false
  dot : c ≠ '.'
  sign : c ∉ "=!<>+-*/%&|^@:".toList

/-- A space separates. -/
theorem separates_blank : Separates ' ' :=
  ⟨by decide, by decide, by decide⟩

/-- A quote separates. -/
theorem IsQuote.separates {quote : Char} (isQuote : IsQuote quote) : Separates quote := by
  rcases isQuote with rfl | rfl
  · exact ⟨by decide, by decide, by decide⟩
  · exact ⟨by decide, by decide, by decide⟩

/-- Names are made of characters of words. -/
theorem isWord_of_isNameChar {c : Char} (name : isNameChar c = true) : isWord c = true := by
  have ascii : isAsciiWord c = true := name
  rw [isWord, ascii, Bool.true_or]

/-- What separates does not stand in a name. -/
theorem Separates.not_isNameChar {c : Char} (separates : Separates c) : isNameChar c = false := by
  cases name : isNameChar c with
  | false => rfl
  | true => exact absurd (isWord_of_isNameChar name) (by simp [separates.word])

/-- A stretch of code that starts and ends with a separator. -/
structure Separating (middle : List Cell) : Prop where
  starts : ∃ cell rest, middle = cell :: rest ∧ Separates cell.char
  ends : ∃ earlier cell, middle = earlier ++ [cell] ∧ Separates cell.char

/-- Whether a word starts at a site does not depend on what is far in front of it. -/
theorem Site.startsWord_moved {c : Char} (noWord : isWord c = false) (site : Site) (offset : Nat)
    (far : List Char) : (site.moved offset (c :: far)).startsWord = site.startsWord := by
  unfold startsWord moved
  cases site.before with
  | nil => simp [noWord]
  | cons last rest => rfl

/-- The sites before a stretch that is not read, and those behind it. -/
theorem filterMap_sites_between {α : Type} {read : Site → Option α} {middle : List Cell}
    (blind : ∀ site : Site, site.here ∈ middle → read site = none) (depth : Nat)
    (ahead behind : List Cell) :
    (sites 0 depth [] (ahead ++ (middle ++ behind))).filterMap read =
      (sites 0 depth [] ahead).filterMap (fun site => read (site.followedBy (middle ++ behind))) ++
        (sites 0 (middle.foldl depthAfter (ahead.foldl depthAfter depth)) [] behind).filterMap
          (fun site => read (site.moved (size ahead + size middle)
            ((middle.map Cell.char).reverse ++ (ahead.map Cell.char).reverse))) := by
  have inside : ((sites (0 + size ahead) (ahead.foldl depthAfter depth)
      ((ahead.map Cell.char).reverse ++ []) middle).map (·.followedBy behind)).filterMap read =
        [] := by
    rw [List.filterMap_map, List.filterMap_eq_nil_iff]
    intro site member
    obtain ⟨passed, whole, -⟩ := exists_of_mem_sites member
    exact blind _ (whole ▸ List.mem_append_right _ List.mem_cons_self)
  have later := sites_moved (size ahead + size middle) 0
    (middle.foldl depthAfter (ahead.foldl depthAfter depth)) []
    ((middle.map Cell.char).reverse ++ (ahead.map Cell.char).reverse) behind
  rw [List.nil_append, Nat.add_zero] at later
  rw [sites_append, sites_append, List.filterMap_append, List.filterMap_append, inside,
    List.nil_append, Nat.zero_add, List.append_nil, later, List.filterMap_map, List.filterMap_map]
  rfl

/-- What is read at a site does not depend on what stands beyond separators, except for where the
site stands. -/
structure Local {α : Type} (read : Site → Option α) (move : Nat → α → α) : Prop where
  followedBy : ∀ {cell : Cell}, Separates cell.char → ∀ (site : Site) (rest : List Cell),
    read (site.followedBy (cell :: rest)) = read site
  moved : ∀ {c : Char}, Separates c → ∀ {site : Site}, site.before.length ≤ site.offset →
    ∀ (offset : Nat) (far : List Char), read (site.moved offset (c :: far)) =
      (read site).map (move offset)

/-- A line is read as the stretches on the two sides of a separating one that is not read. -/
theorem Local.filterMap_sites {α : Type} {read : Site → Option α} {move : Nat → α → α}
    (isLocal : Local read move) {middle : List Cell} (separating : Separating middle)
    (blind : ∀ site : Site, site.here ∈ middle → read site = none) (depth : Nat)
    (ahead behind : List Cell) :
    (sites 0 depth [] (ahead ++ (middle ++ behind))).filterMap read =
      (sites 0 depth [] ahead).filterMap read ++
        ((sites 0 (middle.foldl depthAfter (ahead.foldl depthAfter depth)) [] behind).filterMap
          read).map (move (size ahead + size middle)) := by
  obtain ⟨⟨first, rest, starts, firstSeparates⟩, ⟨earlier, last, ends, lastSeparates⟩⟩ := separating
  rw [filterMap_sites_between blind, List.map_filterMap]
  refine congrArg₂ _ (List.filterMap_congr fun site _ => ?_)
    (List.filterMap_congr fun site member => ?_)
  · rw [starts]
    exact isLocal.followedBy firstSeparates site _
  · obtain ⟨passed, -, placed, -, before⟩ := exists_of_mem_sites member
    have near : site.before.length ≤ site.offset := by
      have bound := Text.length_le_width (passed.map Cell.char)
      rw [placed, before, List.append_nil, List.length_reverse, Nat.zero_add]
      exact bound
    have far : (middle.map Cell.char).reverse = last.char :: (earlier.map Cell.char).reverse := by
      rw [ends, List.map_append, List.reverse_append]
      rfl
    rw [far]
    exact isLocal.moved lastSeparates near _ _

/-! ### Assignment operators -/

/-- The assignment operator that ends at a site. -/
def Site.operator? (site : Site) : Option Span :=
  if site.assigns then some ⟨site.offset - operatorLead site.before, site.offset + 1⟩ else none

/-- The operator of a line is that of the last site that has one. -/
theorem Line.operator?_eq (line : Line) :
    line.operator? = (line.sites.filterMap Site.operator?).getLast? := by
  have spans (found : List Site) : found.filterMap Site.operator? =
      (found.filter Site.assigns).map fun site =>
        ⟨site.offset - operatorLead site.before, site.offset + 1⟩ := by
    induction found with
    | nil => rfl
    | cons site rest ih =>
        rw [List.filterMap_cons, List.filter_cons, ih, Site.operator?]
        split <;> simp_all
  rw [spans, List.getLast?_map]
  rfl

/-- Whether the code before an equals sign leaves it an assignment. -/
def assignsAfter (before : List Char) : Bool :=
  match before with
  | '=' :: _ | '!' :: _ => false
  | '<' :: earlier => earlier.head? = some '<'
  | '>' :: earlier => earlier.head? = some '>'
  | _ => true

/-- A site assigns by its sign, its depth and the signs on both sides. -/
theorem Site.assigns_eq (site : Site) :
    site.assigns = (site.here = ⟨'=', .code⟩ && site.depth = 0 &&
      (site.after.head?.map Cell.char) ≠ some '=' && assignsAfter site.before) :=
  rfl

/-- Only the sign of assignments makes an operator. -/
theorem Site.operator?_eq_none {site : Site} (other : site.here ≠ ⟨'=', .code⟩) :
    site.operator? = none := by
  rw [operator?, assigns_eq, decide_eq_false other, Bool.false_and, Bool.false_and, Bool.false_and,
    if_neg Bool.false_ne_true]

section Before

variable {before : List Char}

/-- The signs that may stand in front of one that assigns. -/
theorem assignsAfter_iff (before : List Char) : assignsAfter before = true ↔
    (∀ c ∈ ['=', '!'], before.head? ≠ some c) ∧
      ∀ c ∈ ['<', '>'], before.head? = some c → before.tail.head? = some c := by
  cases before with
  | nil => simp [assignsAfter]
  | cons c earlier =>
      unfold assignsAfter
      split <;> simp_all

/-- How many signs in front of the last one belong to the operator. -/
theorem operatorLead_eq (assigns : assignsAfter before = true) : operatorLead before =
    if before.head? ∈ ['<', '>', '/', '*'].map some ∧ before.tail.head? = before.head? then 2
    else if before.head? ∈ "+-*/%&|^@:".toList.map some then 1
    else 0 := by
  rw [assignsAfter_iff] at assigns
  unfold operatorLead
  split <;> simp_all

/-- An operator is told by the character before its equals sign, and by whether the one before
that is the same sign again. -/
theorem operator_congr {last : Char} {left right : List Char}
    (same : ∀ c ∈ ['<', '>', '/', '*'], left.head? = some c ↔ right.head? = some c) :
    assignsAfter (last :: left) = assignsAfter (last :: right) ∧
      operatorLead (last :: left) = operatorLead (last :: right) := by
  constructor
  · unfold assignsAfter
    split <;> simp_all
  · unfold operatorLead
    split <;> simp_all

/-- A separator before an operator is no part of it. -/
theorem operator_append {c : Char} (separates : Separates c) (before far : List Char) :
    assignsAfter (before ++ c :: far) = assignsAfter before ∧
      operatorLead (before ++ c :: far) = operatorLead before := by
  have sign := separates.sign
  cases before with
  | nil =>
      constructor
      · unfold assignsAfter
        split <;> simp_all
      · unfold operatorLead
        split <;> simp_all
  | cons last earlier =>
      apply operator_congr
      intro other listed
      cases earlier with
      | nil =>
          have different : c ≠ other := by
            rintro rfl
            exact sign ((by decide : ['<', '>', '/', '*'] ⊆ "=!<>+-*/%&|^@:".toList) listed)
          simp [different]
      | cons second earlier => exact Iff.rfl

/-- What is spelled before the sign of an operator stands before it. -/
theorem operatorLead_le_length (assigns : assignsAfter before = true) :
    operatorLead before ≤ before.length := by
  rw [operatorLead_eq assigns]
  rcases before with _ | ⟨last, _ | ⟨second, earlier⟩⟩
  · simp
  · have single : ¬([last].head? ∈ ['<', '>', '/', '*'].map some ∧
        [last].tail.head? = [last].head?) := fun doubled => nomatch doubled.2
    rw [if_neg single]
    split <;> simp
  · simp only [List.length_cons]
    split
    · omega
    · split <;> omega

end Before

/-- An operator does not reach across a separator. -/
theorem local_operator? : Local Site.operator? fun offset span => span.moved offset where
  followedBy {cell} separates site rest := by
    have noSign : cell.char ≠ '=' := fun same => separates.sign (same ▸ List.mem_cons_self)
    have next : decide ((site.after ++ cell :: rest).head?.map Cell.char ≠ some '=') =
        decide (site.after.head?.map Cell.char ≠ some '=') := by
      cases site.after with
      | nil => simp [noSign]
      | cons other more => rfl
    unfold Site.operator? Site.assigns Site.followedBy
    simp only [next]
  moved {c} separates {site} near offset far := by
    obtain ⟨sameAssigns, sameLead⟩ := operator_append separates site.before far
    have assigns : (site.moved offset (c :: far)).assigns = site.assigns := by
      rw [Site.assigns_eq, Site.assigns_eq, ← sameAssigns]
      rfl
    rw [Site.operator?, Site.operator?, assigns]
    cases assigned : site.assigns with
    | false => rfl
    | true =>
        rw [Site.assigns_eq] at assigned
        have lead := operatorLead_le_length (Bool.and_eq_true_iff.mp assigned).2
        simp only [if_true, Option.map_some, Span.moved, Site.moved, sameLead]
        rw [Nat.add_sub_assoc (Nat.le_trans lead near), Nat.add_assoc]

/-! ### Calls of `pack` -/

/-- An opening bracket behind blanks: how many bytes lead up to the arguments behind it,
and the code from there on. -/
def openedAfter (text : List Cell) : Option (Nat × List Cell) :=
  match text.dropWhile fun cell => isBlank cell.char with
  | ⟨'(', _⟩ :: arguments =>
    some (size (text.takeWhile fun cell => isBlank cell.char) + 1, arguments)
  | _ => none

/-- The same behind the first letter of the name. -/
def argumentsAfter : List Cell → Option (Nat × List Cell)
  | ⟨'a', _⟩ :: ⟨'c', _⟩ :: ⟨'k', _⟩ :: rest =>
    (openedAfter rest).map fun call => (3 + call.1, call.2)
  | _ => none

/-- The call that starts at a site: where its arguments start, and the code from there on. -/
def Site.packCall? (site : Site) : Option (Nat × List Cell) :=
  if site.here = ⟨'p', .code⟩ ∧ site.startsWord then
    (argumentsAfter site.after).map fun call => (site.offset + 1 + call.1, call.2)
  else none

private theorem drop_takeWhile {Unit : Type} (goesOn : Unit → Bool) (text : List Unit) :
    text.drop (text.takeWhile goesOn).length = text.dropWhile goesOn := by
  calc text.drop (text.takeWhile goesOn).length
      = (text.takeWhile goesOn ++ text.dropWhile goesOn).drop (text.takeWhile goesOn).length := by
        rw [List.takeWhile_append_dropWhile]
    _ = text.dropWhile goesOn := List.drop_left

/-- A bracket opens a call if there are only blanks in front of it. -/
theorem openedAfter_of_bracket {text arguments : List Cell} {lexeme : Lexeme}
    (opened : text.dropWhile (fun cell => isBlank cell.char) = ⟨'(', lexeme⟩ :: arguments) :
    openedAfter text =
      some (size (text.takeWhile fun cell => isBlank cell.char) + 1, arguments) := by
  simp only [openedAfter, opened]

private theorem openedAfter_of_other {text : List Cell} (other : ∀ lexeme arguments,
    text.dropWhile (fun cell => isBlank cell.char) = ⟨'(', lexeme⟩ :: arguments → False) :
    openedAfter text = none := by
  unfold openedAfter
  split
  · next opened => exact (other _ _ opened).elim
  · rfl

/-- The span of a call goes from its bracket to the one that closes it. -/
theorem Site.pack?_eq (site : Site) :
    site.pack? = site.packCall?.map fun call => ⟨call.1, closingOffset call.1 0 call.2⟩ := by
  unfold pack? packCall?
  split
  · split
    · next rest after =>
        rw [after, argumentsAfter.eq_1]
        simp only [List.length_map, drop_takeWhile]
        split
        · next lexeme arguments opened =>
            have start (blanks : Nat) : site.offset + 1 + (3 + (blanks + 1)) =
                site.offset + 4 + blanks + 1 := by omega
            rw [openedAfter_of_bracket opened]
            simp only [Option.map_some, start]
        · next other =>
            rw [openedAfter_of_other other]
            rfl
    · next other =>
        rw [argumentsAfter.eq_2 _ other]
        rfl
  · rfl

private theorem openedAfter_append {cell : Cell} (isQuote : IsQuote cell.char)
    (text rest : List Cell) :
    openedAfter (text ++ cell :: rest) =
      (openedAfter text).map fun call => (call.1, call.2 ++ cell :: rest) := by
  have noBracket : cell.char ≠ '(' := isQuote.ne (by decide)
  obtain ⟨taken, dropped⟩ :=
    @takeWhile_append_stop _ (fun cell : Cell => isBlank cell.char) _ isQuote.not_isBlank text rest
  by_cases bracket : ∃ lexeme arguments,
      text.dropWhile (fun cell => isBlank cell.char) = ⟨'(', lexeme⟩ :: arguments
  · obtain ⟨lexeme, arguments, opened⟩ := bracket
    rw [opened, List.cons_append] at dropped
    rw [openedAfter_of_bracket dropped, openedAfter_of_bracket opened, taken, Option.map_some]
  · have other (lexeme : Lexeme) (arguments : List Cell)
        (opened : text.dropWhile (fun cell => isBlank cell.char) = ⟨'(', lexeme⟩ :: arguments) :
        False := bracket ⟨lexeme, arguments, opened⟩
    rw [openedAfter_of_other other, openedAfter_of_other, Option.map_none]
    intro lexeme arguments opened
    rw [dropped] at opened
    cases behind : text.dropWhile fun cell => isBlank cell.char with
    | nil =>
        rw [behind, List.nil_append] at opened
        exact noBracket (congrArg Cell.char (List.cons.inj opened).1)
    | cons first more =>
        rw [behind, List.cons_append] at opened
        exact other lexeme more (by rw [behind, (List.cons.inj opened).1])

private theorem argumentsAfter_append {cell : Cell} (isQuote : IsQuote cell.char)
    (text rest : List Cell) :
    argumentsAfter (text ++ cell :: rest) =
      (argumentsAfter text).map fun call => (call.1, call.2 ++ cell :: rest) := by
  by_cases named : ∃ a c k more, text = ⟨'a', a⟩ :: ⟨'c', c⟩ :: ⟨'k', k⟩ :: more
  · obtain ⟨a, c, k, more, rfl⟩ := named
    simp only [List.cons_append, argumentsAfter, openedAfter_append isQuote, Option.map_map]
    rfl
  · have other (a c k : Lexeme) (more : List Cell)
        (same : text = ⟨'a', a⟩ :: ⟨'c', c⟩ :: ⟨'k', k⟩ :: more) : False :=
      named ⟨a, c, k, more, same⟩
    rw [argumentsAfter.eq_2 text other, argumentsAfter.eq_2, Option.map_none]
    intro a c k more same
    -- A quote is none of the letters of the name.
    rcases text with _ | ⟨first, _ | ⟨second, _ | ⟨third, text⟩⟩⟩
    · cases same
      exact absurd isQuote (by decide : ¬ IsQuote 'a')
    · cases same
      exact absurd isQuote (by decide : ¬ IsQuote 'c')
    · cases same
      exact absurd isQuote (by decide : ¬ IsQuote 'k')
    · cases same
      exact other a c k text rfl

/-- The name and the bracket of a call do not stand on two sides of a quote. -/
theorem Site.packCall?_followedBy {cell : Cell} (isQuote : IsQuote cell.char) (site : Site)
    (rest : List Cell) :
    (site.followedBy (cell :: rest)).packCall? =
      site.packCall?.map fun call => (call.1, call.2 ++ cell :: rest) := by
  have starts : (site.followedBy (cell :: rest)).startsWord = site.startsWord := rfl
  simp only [packCall?, starts]
  simp only [followedBy, argumentsAfter_append isQuote]
  split
  · rw [Option.map_map, Option.map_map]
    rfl
  · rfl

/-- A call is moved with its site. -/
theorem Site.packCall?_moved {c : Char} (noWord : isWord c = false) (site : Site) (offset : Nat)
    (far : List Char) :
    (site.moved offset (c :: far)).packCall? =
      site.packCall?.map fun call => (offset + call.1, call.2) := by
  simp only [packCall?, startsWord_moved noWord]
  simp only [moved, Nat.add_assoc]
  split
  · rw [Option.map_map]
    rfl
  · rfl

private theorem size_openedAfter {text arguments : List Cell} {lead : Nat}
    (found : openedAfter text = some (lead, arguments)) :
    lead + size arguments = size text := by
  unfold openedAfter at found
  split at found
  · next opened dropped =>
      cases found
      have split := congrArg size (List.takeWhile_append_dropWhile (p := fun cell : Cell =>
        isBlank cell.char) (l := text))
      have bracket : '('.utf8Size = 1 := rfl
      rw [size_append, dropped, size_cons, bracket] at split
      omega
  · cases found

/-- The arguments of a call are the code from where they start. -/
theorem Site.size_packCall? {site : Site} {start : Nat} {arguments : List Cell}
    (found : site.packCall? = some (start, arguments)) :
    start + size arguments = site.offset + size (site.here :: site.after) := by
  unfold packCall? at found
  split at found
  · next name =>
      obtain ⟨⟨lead, code⟩, called, same⟩ := Option.map_eq_some_iff.mp found
      cases same
      unfold argumentsAfter at called
      split at called
      · next after =>
          obtain ⟨⟨more, code⟩, opened, same⟩ := Option.map_eq_some_iff.mp called
          cases same
          have rest := size_openedAfter opened
          have letters : 'a'.utf8Size = 1 ∧ 'c'.utf8Size = 1 ∧ 'k'.utf8Size = 1 ∧ 'p'.utf8Size = 1 :=
            ⟨rfl, rfl, rfl, rfl⟩
          rw [after, name.1]
          simp only [size_cons]
          omega
      · cases called
  · cases found

/-! ### Closing brackets -/

/-- The end of a call is moved with its start. -/
theorem closingOffset_moved (shift offset depth : Nat) (code : List Cell) :
    closingOffset (shift + offset) depth code = shift + closingOffset offset depth code := by
  induction code generalizing offset depth with
  | nil => rfl
  | cons cell rest ih =>
      simp only [closingOffset, Nat.add_assoc, ih]
      split
      · rfl
      · split
        · cases depth <;> rfl
        · rfl

/-- Brackets in literals do not count. -/
theorem closingOffset_text {text : List Cell} (isText : ∀ cell ∈ text, cell.lexeme = .text)
    (offset depth : Nat) (rest : List Cell) :
    closingOffset offset depth (text ++ rest) = closingOffset (offset + size text) depth rest := by
  induction text generalizing offset with
  | nil => rfl
  | cons cell text ih =>
      have noCode (c : Char) : cell ≠ ⟨c, .code⟩ := by
        rintro rfl
        cases isText _ List.mem_cons_self
      have later := ih fun other member => isText other (List.mem_cons_of_mem _ member)
      simp only [List.cons_append, closingOffset, noCode, if_false, later, size_cons, Nat.add_assoc]

/-- A bracket is closed in a stretch, wherever the line goes on, or is open behind it. -/
theorem closingOffset_append (offset depth : Nat) (code : List Cell) :
    (∃ stop ≤ offset + size code, ∀ rest, closingOffset offset depth (code ++ rest) = stop) ∨
      ∃ more, ∀ rest, closingOffset offset depth (code ++ rest) =
        closingOffset (offset + size code) more rest := by
  induction code generalizing offset depth with
  | nil => exact .inr ⟨depth, fun _ => rfl⟩
  | cons cell code ih =>
      simp only [List.cons_append, closingOffset, size_cons]
      split
      · next opens =>
          have one : cell.char.utf8Size = 1 := by rw [opens]; rfl
          rw [one, ← Nat.add_assoc]
          exact ih (offset + 1) (depth + 1)
      · split
        · next closes =>
            have one : cell.char.utf8Size = 1 := by rw [closes]; rfl
            rw [one, ← Nat.add_assoc]
            cases depth with
            | zero => exact .inl ⟨offset, by omega, fun _ => rfl⟩
            | succ depth => exact ih (offset + 1) depth
        · rw [← Nat.add_assoc]
          exact ih (offset + cell.char.utf8Size) depth

end HintFuzz.Hint
