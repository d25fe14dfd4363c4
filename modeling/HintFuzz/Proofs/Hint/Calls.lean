import HintFuzz.Proofs.Hint.Packing
import Mathlib.Data.List.Forall2

/-!
# The calls of a line

A call of `pack` starts wherever the code of a line spells its name and an opening parenthesis,
unless a word character stands before them or a literal holds them (`Call.StandsIn`).  Each call
has one span of arguments, which goes up to the matching parenthesis, or to the end of the code if
there is none (`Call.Spans`, `callRule`).

The name of one call ends before that of the next one starts (`Call.StandsIn.start_le`), and what
closes a parenthesis has closed all that were opened behind it before.  So the arguments of two
calls lie one behind the other, or the earlier ones hold the later ones
(`Call.StandsIn.separate`).
-/

namespace HintFuzz.Hint

/-! ### Fronts of code -/

section Fronts

variable {code left right : List Cell}

/-- Of two fronts of a stretch of code the narrower one is a front of the other. -/
theorem prefix_of_size_le (leftPrefix : left <+: code) (rightPrefix : right <+: code)
    (narrower : size left ≤ size right) : left <+: right := by
  rcases List.prefix_or_prefix_of_prefix leftPrefix rightPrefix with front | ⟨more, rfl⟩
  · exact front
  · rw [size_append] at narrower
    rw [eq_nil_of_size_eq_zero (by omega : size more = 0), List.append_nil]

private theorem eq_of_size_eq (leftPrefix : left <+: code) (rightPrefix : right <+: code)
    (same : size left = size right) : left = right :=
  (prefix_of_size_le leftPrefix rightPrefix same.le).eq_of_length_le
    (prefix_of_size_le rightPrefix leftPrefix same.ge).length_le

private theorem size_le_of_prefix (front : left <+: right) : size left ≤ size right := by
  obtain ⟨more, rfl⟩ := front
  rw [size_append]
  exact Nat.le_add_right _ _

end Fronts

/-! ### The end of the arguments -/

/-- Behind the arguments of a call stands the parenthesis that closes the one before them. -/
structure ClosedBehind (behind arguments : List Cell) : Prop where
  closing : ∃ rest, behind = arguments ++ ⟨')', .code⟩ :: rest
  unclosed : Unclosed 0 arguments
  even : arguments.count ⟨')', .code⟩ = arguments.count ⟨'(', .code⟩

/-- What of the code behind a parenthesis stands in it: all up to the one that closes it, or all
of the code if none does. -/
inductive Enclosed (behind : List Cell) : List Cell → Prop
  | closed {arguments : List Cell} : ClosedBehind behind arguments → Enclosed behind arguments
  | unending : (∀ arguments, ¬ClosedBehind behind arguments) → Enclosed behind behind

section Enclosed

variable {behind arguments inside : List Cell}

private theorem Enclosed.isPrefix (enclosed : Enclosed behind arguments) :
    arguments <+: behind := by
  cases enclosed with
  | closed closes =>
      obtain ⟨rest, rfl⟩ := closes.closing
      exact List.prefix_append _ _
  | unending => exact List.prefix_refl _

private theorem unclosed_concat_close {depth : Nat} : Unclosed depth (inside ++ [⟨')', .code⟩]) ↔
    Unclosed depth inside ∧ inside.count ⟨')', .code⟩ < depth + inside.count ⟨'(', .code⟩ := by
  have closes : (inside ++ [⟨')', .code⟩] : List Cell).count ⟨')', .code⟩ =
      inside.count ⟨')', .code⟩ + 1 := by
    rw [List.count_append, List.count_singleton_self]
  have opens : (inside ++ [⟨')', .code⟩] : List Cell).count ⟨'(', .code⟩ =
      inside.count ⟨'(', .code⟩ := by
    rw [List.count_append, List.count_singleton, if_neg (by decide), Nat.add_zero]
  constructor
  · intro unclosed
    have all := unclosed _ (List.prefix_refl _)
    exact ⟨unclosed.of_append, by omega⟩
  · rintro ⟨unclosed, opened⟩ passed front
    rcases List.prefix_concat_iff.mp front with rfl | earlier
    · omega
    · exact unclosed passed earlier

/-- Nothing closes a parenthesis that the code leaves open. -/
theorem not_closedBehind (unclosed : Unclosed 0 behind) (arguments : List Cell) :
    ¬ClosedBehind behind arguments := by
  rintro ⟨⟨rest, rfl⟩, -, even⟩
  rw [← List.singleton_append, ← List.append_assoc] at unclosed
  have opened := (unclosed_concat_close.mp unclosed.of_append).2
  omega

/-- The scanner stops at the first parenthesis that closes more than is open, or at the end of the
code. -/
theorem exists_inside (offset depth : Nat) (code : List Cell) : ∃ inside rest,
    code = inside ++ rest ∧ closingOffset offset depth code = offset + size inside ∧
      Unclosed depth inside ∧ (rest = [] ∨ ∃ more, rest = ⟨')', .code⟩ :: more ∧
        ¬Unclosed depth (inside ++ [⟨')', .code⟩])) := by
  fun_induction closingOffset offset depth code with
  | case1 offset depth => exact ⟨[], [], rfl, rfl, unclosed_nil depth, .inl rfl⟩
  | case2 offset depth rest ih =>
      obtain ⟨inside, left, rfl, stops, unclosed, ends⟩ := ih
      refine ⟨_ :: inside, left, rfl, ?_, unclosed_open.mpr unclosed, ?_⟩
      · rw [stops, size_cons, Nat.add_assoc]
        rfl
      · rwa [List.cons_append, unclosed_open]
  | case3 offset rest noOpen =>
      exact ⟨[], _, rfl, rfl, unclosed_nil 0, .inr ⟨rest, rfl, not_unclosed_close⟩⟩
  | case4 offset rest noOpen depth ih =>
      obtain ⟨inside, left, rfl, stops, unclosed, ends⟩ := ih
      refine ⟨_ :: inside, left, rfl, ?_, unclosed_close.mpr unclosed, ?_⟩
      · rw [stops, size_cons, Nat.add_assoc]
        rfl
      · rwa [List.cons_append, unclosed_close]
  | case5 offset depth cell rest noOpen noClose ih =>
      obtain ⟨inside, left, rfl, stops, unclosed, ends⟩ := ih
      refine ⟨cell :: inside, left, rfl, ?_, (unclosed_other noOpen noClose).mpr unclosed, ?_⟩
      · rw [stops, size_cons, Nat.add_assoc]
      · rwa [List.cons_append, unclosed_other noOpen noClose]

/-- The scanner finds what stands in a parenthesis. -/
theorem exists_enclosed (start : Nat) (behind : List Cell) : ∃ arguments,
    Enclosed behind arguments ∧ Unclosed 0 arguments ∧
      closingOffset start 0 behind = start + size arguments := by
  obtain ⟨inside, rest, rfl, stops, unclosed, rfl | ⟨more, rfl, closed⟩⟩ :=
    exists_inside start 0 behind
  · rw [List.append_nil] at stops ⊢
    exact ⟨inside, .unending (not_closedBehind unclosed), unclosed, stops⟩
  · have early := unclosed _ (List.prefix_refl _)
    rw [unclosed_concat_close, not_and, Nat.not_lt] at closed
    have late := closed unclosed
    exact ⟨inside, .closed ⟨⟨more, rfl⟩, unclosed, by omega⟩, unclosed, stops⟩

/-- A parenthesis is not closed before those that are opened in it: what it encloses goes on at
least as far as what stands behind a part of it and closes nothing from before. -/
theorem Enclosed.isPrefix_of_inner {part late inner : List Cell}
    (enclosed : Enclosed (part ++ behind) (part ++ late)) (unclosed : Unclosed 0 part)
    (front : inner <+: behind) (innerUnclosed : Unclosed 0 inner) : inner <+: late := by
  generalize outer : part ++ late = arguments at enclosed
  cases enclosed with
  | unending =>
      rw [List.append_cancel_left outer]
      exact front
  | closed closes =>
      obtain ⟨rest, split⟩ := closes.closing
      have even := closes.even
      rw [← outer, List.append_assoc] at split
      rw [← outer, List.count_append, List.count_append] at even
      obtain rfl := List.append_cancel_left split
      rcases List.prefix_or_prefix_of_prefix front (List.prefix_append late _) with
        inside | ⟨_ | ⟨first, more⟩, rfl⟩
      · exact inside
      · rw [List.append_nil]
      · -- What goes on behind the closing parenthesis closes more than it opens.
        obtain ⟨rfl, -⟩ := List.cons_prefix_cons.mp ((List.prefix_append_right_inj late).mp front)
        rw [← List.singleton_append, ← List.append_assoc] at innerUnclosed
        have opened := (unclosed_concat_close.mp innerUnclosed.of_append).2
        have closed := unclosed part (List.prefix_refl part)
        omega

end Enclosed

/-! ### Places of calls -/

/-- The code of a line, split at the name of a call. -/
@[ext]
structure Call where
  ahead : List Cell
  /-- The name and the bracket, with what stands between them. -/
  name : List Cell
  behind : List Cell

/-- Where the arguments of a call start. -/
def Call.start (call : Call) : Nat :=
  size (call.ahead ++ call.name)

/-- A call stands in the code of a line. -/
structure Call.StandsIn (call : Call) (code : List Cell) : Prop where
  split : code = call.ahead ++ (call.name ++ call.behind)
  startsWord : ∀ last ∈ call.ahead.getLast?, isWord last.char = false
  spelled : ∃ blanks, (∀ c ∈ blanks, isBlank c = true) ∧
    call.name.map Cell.char = "pack".toList ++ blanks ++ ['(']
  /-- The name does not stand in a literal. -/
  inCode : ∀ first ∈ call.name.head?, first.lexeme = .code

/-- The span of the arguments of a call. -/
structure Call.Spans (call : Call) (span : Span) : Prop where
  start : span.start = call.start
  stop : ∃ arguments, Enclosed call.behind arguments ∧ Unclosed 0 arguments ∧
    span.stop = span.start + size arguments

section Call

variable {text : String} {depth : Nat} {code : List Cell} {site : Site} {call left right : Call}
  {span outer inner : Span}

private theorem Call.StandsIn.exists_name (stands : call.StandsIn code) : ∃ word blanks,
    call.name = ⟨'p', .code⟩ :: word ∧ (∀ c ∈ blanks, isBlank c = true) ∧
      word.map Cell.char = "ack".toList ++ blanks ++ ['('] := by
  obtain ⟨blanks, isBlanks, spelled⟩ := stands.spelled
  have isCode := stands.inCode
  cases name : call.name with
  | nil =>
      rw [name] at spelled
      cases spelled
  | cons first word =>
      rw [name] at spelled isCode
      have letters : first.char :: word.map Cell.char = 'p' :: ("ack".toList ++ blanks ++ ['(']) :=
        spelled
      obtain ⟨letter, rest⟩ := List.cons.inj letters
      refine ⟨word, blanks, ?_, isBlanks, rest⟩
      rw [← isCode first rfl, ← letter]

private theorem notMem_spelling {word blanks : List Char} {c : Char}
    (isBlanks : ∀ c ∈ blanks, isBlank c = true) (noBlank : isBlank c = false) (other : c ∉ word) :
    c ∉ word ++ blanks := by
  intro member
  rcases List.mem_append.mp member with letter | blank
  · exact other letter
  · exact Bool.false_ne_true (noBlank.symm.trans (isBlanks c blank))

/-- A name ends at its first bracket. -/
theorem Call.StandsIn.name_eq (leftStands : left.StandsIn code) (rightStands : right.StandsIn code)
    (front : left.name <+: right.name) : left.name = right.name := by
  obtain ⟨leftBlanks, -, leftSpelled⟩ := leftStands.spelled
  obtain ⟨rightBlanks, isBlanks, rightSpelled⟩ := rightStands.spelled
  have letters := front.map Cell.char
  rw [leftSpelled, rightSpelled] at letters
  rcases List.prefix_concat_iff.mp letters with same | early
  · rw [← leftSpelled, ← rightSpelled] at same
    apply front.eq_of_length
    simpa using congrArg List.length same
  · have bracket := early.subset (List.mem_append_right _ List.mem_cons_self)
    exact absurd bracket (notMem_spelling isBlanks (by decide) (by decide))

/-- A call is told by where it stands. -/
theorem Call.StandsIn.eq (leftStands : left.StandsIn code) (rightStands : right.StandsIn code)
    (same : size left.ahead = size right.ahead) : left = right := by
  have ahead : left.ahead = right.ahead :=
    eq_of_size_eq ⟨_, leftStands.split.symm⟩ ⟨_, rightStands.split.symm⟩ same
  have split := leftStands.split.symm.trans rightStands.split
  rw [ahead] at split
  have rest := List.append_cancel_left split
  have leftName : left.name <+: left.name ++ left.behind := List.prefix_append _ _
  have rightName : right.name <+: left.name ++ left.behind := ⟨right.behind, rest.symm⟩
  have name : left.name = right.name := by
    rcases List.prefix_or_prefix_of_prefix leftName rightName with front | front
    · exact leftStands.name_eq rightStands front
    · exact (rightStands.name_eq leftStands front).symm
  rw [name] at rest
  exact Call.ext ahead name (List.append_cancel_left rest)

/-- The name of a call ends before that of the next one starts. -/
theorem Call.StandsIn.start_le (leftStands : left.StandsIn code)
    (rightStands : right.StandsIn code) (earlier : size left.ahead < size right.ahead) :
    left.start ≤ size right.ahead := by
  obtain ⟨leftWord, blanks, leftName, isBlanks, letters⟩ := leftStands.exists_name
  obtain ⟨rightWord, -, rightName, -, -⟩ := rightStands.exists_name
  have leftFront : left.ahead ++ left.name <+: code :=
    ⟨left.behind, (List.append_assoc ..).trans leftStands.split.symm⟩
  have rightFront : right.ahead ++ [⟨'p', .code⟩] <+: code :=
    ⟨rightWord ++ right.behind, by rw [rightStands.split, rightName]; simp⟩
  have aheadFront : right.ahead <+: code := ⟨_, rightStands.split.symm⟩
  obtain ⟨between, ahead⟩ :=
    prefix_of_size_le ((List.prefix_append _ _).trans leftFront) aheadFront earlier.le
  by_contra overlap
  -- The first letter of the later name would be one of the others of the earlier name.
  have part : right.ahead ++ [⟨'p', .code⟩] <+: left.ahead ++ left.name := by
    refine prefix_of_size_le rightFront leftFront ?_
    rw [Call.start] at overlap
    rw [size_append right.ahead]
    exact Nat.lt_of_not_le overlap
  rw [← ahead, List.append_assoc, List.prefix_append_right_inj, leftName] at part
  cases between with
  | nil =>
      rw [List.append_nil] at ahead
      exact absurd (congrArg size ahead) earlier.ne
  | cons first between =>
      have member := (List.cons_prefix_cons.mp part).2.subset
        (List.mem_append_right _ List.mem_cons_self)
      have letter : 'p' ∈ "ack".toList ++ blanks ++ ['('] := letters ▸ List.mem_map_of_mem member
      rcases List.mem_append.mp letter with spelled | bracket
      · exact notMem_spelling isBlanks (by decide) (by decide) spelled
      · exact absurd bracket (by decide)

private theorem Call.StandsIn.ahead_lt_start (stands : call.StandsIn code) :
    size call.ahead < call.start := by
  obtain ⟨word, -, name, -, -⟩ := stands.exists_name
  have letter : 'p'.utf8Size = 1 := rfl
  rw [Call.start, name, size_append, size_cons, letter]
  omega

private theorem Call.StandsIn.start_add (stands : call.StandsIn code) :
    call.start + size call.behind = size code := by
  rw [Call.start, ← size_append, List.append_assoc, ← stands.split]

/-- What is behind a call is the rest of the code. -/
theorem Call.StandsIn.suffix (stands : call.StandsIn code) : call.behind <:+ code :=
  ⟨call.ahead ++ call.name, (List.append_assoc ..).trans stands.split.symm⟩

/-- The arguments of two calls lie one behind the other, or the earlier ones hold the later
ones. -/
theorem Call.StandsIn.separate (leftStands : left.StandsIn code) (rightStands : right.StandsIn code)
    (earlier : size left.ahead < size right.ahead) (outerSpans : left.Spans outer)
    (innerSpans : right.Spans inner) :
    outer.stop < inner.start ∨ outer.start < inner.start ∧ inner.stop ≤ outer.stop := by
  obtain ⟨outerStart, outerArguments, outerEnclosed, outerUnclosed, outerStop⟩ := outerSpans
  obtain ⟨innerStart, innerArguments, innerEnclosed, innerUnclosed, innerStop⟩ := innerSpans
  have leftTotal := leftStands.start_add
  have rightTotal := rightStands.start_add
  have nameEnds := leftStands.start_le rightStands earlier
  have nameStarts := rightStands.ahead_lt_start
  by_cases apart : outer.stop < inner.start
  · exact .inl apart
  refine .inr ⟨by omega, ?_⟩
  -- Up to the later bracket the code is a part of the earlier arguments.
  obtain ⟨part, behind⟩ := suffix_of_size_le rightStands.suffix leftStands.suffix (by omega)
  rw [← behind, size_append] at leftTotal
  rw [← behind] at outerEnclosed
  obtain ⟨late, rfl⟩ :=
    prefix_of_size_le (List.prefix_append part _) outerEnclosed.isPrefix (by omega)
  have within := size_le_of_prefix (outerEnclosed.isPrefix_of_inner outerUnclosed.of_append
    innerEnclosed.isPrefix innerUnclosed)
  rw [size_append] at outerStop
  omega

private theorem Call.StandsIn.callsPack (stands : call.StandsIn (lineCode text)) :
    CallsPack (lineCode text) call.ahead call.behind := by
  obtain ⟨word, blanks, name, isBlanks, spelling⟩ := stands.exists_name
  have split := stands.split
  rw [name, List.cons_append] at split
  refine ⟨stands.startsWord, blanks, isBlanks, ?_⟩
  rw [split, eq_coded_of_spelling split isBlanks spelling]
  rfl

private theorem CallsPack.exists_call {ahead behind : List Cell}
    (calls : CallsPack code ahead behind) :
    ∃ call : Call, call.StandsIn code ∧ call.ahead = ahead ∧ call.behind = behind := by
  obtain ⟨startsWord, blanks, isBlanks, split⟩ := calls
  refine ⟨⟨ahead, coded ("pack".toList ++ blanks ++ ['(']), behind⟩,
    ⟨split, startsWord, ⟨blanks, isBlanks, ?_⟩, ?_⟩, rfl, rfl⟩
  · exact (List.map_map ..).trans (List.map_id _)
  · rintro _ ⟨⟩
    rfl

/-- What is read at a site is the span of a call that stands there. -/
theorem exists_call_of_pack? (member : site ∈ (Line.scan depth text).sites)
    (called : site.pack? = some span) : ∃ call : Call, call.StandsIn (lineCode text) ∧
      site.offset = size call.ahead ∧ call.Spans span := by
  rw [Site.pack?_eq] at called
  obtain ⟨⟨start, behind⟩, read, rfl⟩ := Option.map_eq_some_iff.mp called
  obtain ⟨ahead, calls, placed, total⟩ := callsPack_of_packCall? member read
  obtain ⟨call, stands, rfl, rfl⟩ := calls.exists_call
  obtain ⟨arguments, enclosed, unclosed, stop⟩ := exists_enclosed start call.behind
  refine ⟨call, stands, placed, ?_, arguments, enclosed, unclosed, stop⟩
  exact Nat.add_right_cancel (total.trans stands.start_add.symm)

/-- Where a call stands, a span is read. -/
theorem Call.StandsIn.exists_site (stands : call.StandsIn (lineCode text)) (depth : Nat) :
    ∃ site ∈ (Line.scan depth text).sites, site.offset = size call.ahead ∧ site.pack? ≠ none := by
  obtain ⟨site, member, placed, start, called, -⟩ := stands.callsPack.exists_site depth
  refine ⟨site, member, placed, ?_⟩
  rw [Site.pack?_eq, called]
  exact nofun

end Call

/-! ### The spans of a line -/

/-- What the argument spans of a line are. -/
structure Line.CallRule (line : Line) : Prop where
  /-- There is one span for each call, in the order of the calls. -/
  calls : ∃ calls : List Call, (∀ call, call ∈ calls ↔ call.StandsIn line.cells) ∧
    calls.Pairwise (fun earlier later => size earlier.ahead < size later.ahead) ∧
      List.Forall₂ Call.Spans calls line.packs
  /-- Two spans lie one behind the other, or the first one holds the second one. -/
  separate : line.packs.Pairwise fun outer inner =>
    outer.stop < inner.start ∨ outer.start < inner.start ∧ inner.stop ≤ outer.stop
  inside : ∀ span ∈ line.packs,
    span.start ≤ span.stop ∧ span.stop ≤ Text.width line.code.toList

/-- The calls at some of the sites of a line. -/
theorem exists_calls {depth : Nat} {text : String} {found : List Site}
    (within : found ⊆ (Line.scan depth text).sites)
    (ascending : found.Pairwise (·.offset < ·.offset)) :
    ∃ calls : List Call, (∀ call, call ∈ calls ↔ call.StandsIn (lineCode text) ∧
      ∃ site ∈ found, site.offset = size call.ahead ∧ site.pack? ≠ none) ∧
        calls.Pairwise (fun earlier later => size earlier.ahead < size later.ahead) ∧
          List.Forall₂ Call.Spans calls (found.filterMap Site.pack?) := by
  induction found with
  | nil => exact ⟨[], by simp, .nil, .nil⟩
  | cons site rest ih =>
      obtain ⟨before, later⟩ := List.pairwise_cons.mp ascending
      obtain ⟨siteMember, restWithin⟩ := List.cons_subset.mp within
      obtain ⟨calls, complete, ordered, spans⟩ := ih restWithin later
      simp only [List.exists_mem_cons_iff]
      cases called : site.pack? with
      | none =>
          rw [List.filterMap_cons_none called]
          refine ⟨calls, fun call => (complete call).trans (and_congr_right fun _ => ?_), ordered,
            spans⟩
          exact (or_iff_right fun reads => reads.2 rfl).symm
      | some span =>
          obtain ⟨call, stands, placed, callSpans⟩ := exists_call_of_pack? siteMember called
          rw [List.filterMap_cons_some called]
          refine ⟨call :: calls, ?_, List.pairwise_cons.mpr ⟨?_, ordered⟩, .cons callSpans spans⟩
          · intro other
            rw [List.mem_cons, complete]
            constructor
            · rintro (rfl | ⟨otherStands, behind⟩)
              · exact ⟨stands, .inl ⟨placed, nofun⟩⟩
              · exact ⟨otherStands, .inr behind⟩
            · rintro ⟨otherStands, ⟨otherPlaced, -⟩ | behind⟩
              · exact .inl (otherStands.eq stands (otherPlaced.symm.trans placed))
              · exact .inr ⟨otherStands, behind⟩
          · intro other member
            obtain ⟨-, behind, behindMember, behindPlaced, -⟩ := (complete other).mp member
            rw [← placed, ← behindPlaced]
            exact before behind behindMember

/-- **Every call of a line has one span of arguments**, up to the parenthesis that closes it, and
two spans are nested or disjoint. -/
theorem callRule (depth : Nat) (text : String) : (Line.scan depth text).CallRule where
  calls := by
    obtain ⟨calls, complete, ordered, spans⟩ :=
      exists_calls (List.Subset.refl _) (pairwise_offset_sites 0 depth [] (lineCode text))
    refine ⟨calls, fun call => (complete call).trans (and_iff_left_of_imp ?_), ordered, spans⟩
    exact fun stands => stands.exists_site depth
  separate := by
    rw [Line.packs, List.pairwise_filterMap]
    refine (pairwise_offset_sites 0 depth [] (lineCode text)).imp_of_mem ?_
    intro site later siteMember laterMember offset outer outerRead inner innerRead
    obtain ⟨left, leftStands, leftPlaced, leftSpans⟩ := exists_call_of_pack? siteMember outerRead
    obtain ⟨right, rightStands, rightPlaced, rightSpans⟩ :=
      exists_call_of_pack? laterMember innerRead
    rw [leftPlaced, rightPlaced] at offset
    exact leftStands.separate rightStands offset leftSpans rightSpans
  inside span member := by
    obtain ⟨site, siteMember, called⟩ := List.mem_filterMap.mp member
    obtain ⟨call, stands, -, start, arguments, enclosed, -, stop⟩ :=
      exists_call_of_pack? siteMember called
    have total : call.start + size call.behind = Text.width (Line.scan depth text).code.toList := by
      rw [stands.start_add, Line.code, String.toList_ofList]
      rfl
    have front := size_le_of_prefix enclosed.isPrefix
    omega

/-- A call among the arguments of another one, a word that only ends in the name, and a call that
nothing closes. -/
example : (Line.scan 0 "pack(a, pack (b), ')') + xpack(c) + pack(d").packs =
    [⟨5, 21⟩, ⟨14, 15⟩, ⟨41, 42⟩] := by
  decide +kernel

end HintFuzz.Hint
