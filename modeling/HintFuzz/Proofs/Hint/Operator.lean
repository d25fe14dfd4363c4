import HintFuzz.Proofs.Hint.Octets

/-!
# Assignment operators

Which bytes of a line are equals signs that assign is said byte by byte in `Line.AssignsAt`: what
stands before the sign, behind it and at it.  The operator of a line is the last of them, with
what is spelled before it (`Line.operatorStart`), and it is made of code (`operatorRule`).  A search
from left to right, which passes both signs of a comparison at once and keeps what it found last,
finds the same (`operatorFrom_eq`).
-/

namespace HintFuzz.Hint

/-- The byte at a position is an equals sign that assigns: it is code outside all brackets and no
part of a comparison. -/
structure Line.AssignsAt (line : Line) (position : Nat) : Prop where
  sign : line.octets[position]? = some ⟨'='.toUInt8, .code⟩
  outside : line.depthAt position = 0
  next : line.byte? (position + 1) ≠ some '='.toUInt8
  last : ∀ c ∈ ['=', '!'], line.byteBack? position 1 ≠ some c.toUInt8
  /-- A shift has its angle twice. -/
  twice : ∀ c ∈ ['<', '>'], line.byteBack? position 1 = some c.toUInt8 →
    line.byteBack? position 2 = some c.toUInt8

/-- Where the operator starts whose equals sign stands at a position. -/
def Line.operatorStart (line : Line) (position : Nat) : Nat :=
  let last? := line.byteBack? position 1
  if last? ∈ ['<', '>', '/', '*'].map (some ·.toUInt8) ∧ line.byteBack? position 2 = last? then
    position - 2
  else if last? ∈ "+-*/%&|^@:".toList.map (some ·.toUInt8) then position - 1
  else position

/-! ### The search from left to right -/

/-- The operator of an equals sign with some code before it, if it assigns. -/
def operatorAt? (offset : Nat) (before : List Char) : Option Span :=
  if assignsAfter before then some ⟨offset - operatorLead before, offset + 1⟩ else none

/-- Goes through a stretch of code from left to right and keeps the operator that was found last,
`found` to begin with.  Of two equals signs in a row outside all brackets both are passed at
once. -/
def operatorFrom (offset depth : Nat) (before : List Char) (found : Option Span) :
    List Cell → Option Span
  | [] => found
  | here :: after =>
    if here = ⟨'=', .code⟩ ∧ depth = 0 then
      match after with
      | [] => (operatorAt? offset before).or found
      | next :: rest =>
        if next.char = '=' then operatorFrom (offset + 2) depth ('=' :: '=' :: before) found rest
        else
          operatorFrom (offset + 1) depth ('=' :: before) ((operatorAt? offset before).or found)
            (next :: rest)
    else
      operatorFrom (offset + here.char.utf8Size) (depthAfter depth here) (here.char :: before) found
        after

/-- An equals sign that no other one follows ends an operator if the code before it lets it. -/
theorem Site.operator?_sign (offset : Nat) (before : List Char) {after : List Cell}
    (single : after.head?.map Cell.char ≠ some '=') :
    (Site.mk offset 0 before ⟨'=', .code⟩ after).operator? = operatorAt? offset before := by
  rw [operator?, assigns_eq, decide_eq_true single]
  rfl

/-- The first one of two signs ends no operator. -/
theorem Site.operator?_eq_none_of_next {site : Site}
    (next : site.after.head?.map Cell.char = some '=') : site.operator? = none := by
  rw [operator?, assigns_eq, decide_eq_false (not_not.mpr next), Bool.and_false, Bool.false_and,
    if_neg Bool.false_ne_true]

/-- Nor does the second one. -/
theorem Site.operator?_eq_none_of_last {site : Site} {earlier : List Char}
    (last : site.before = '=' :: earlier) : site.operator? = none := by
  rw [operator?, assigns_eq, last, assignsAfter, Bool.and_false, if_neg Bool.false_ne_true]

/-- Signs inside brackets end none. -/
theorem Site.operator?_eq_none_of_depth {site : Site} (inside : site.depth ≠ 0) :
    site.operator? = none := by
  rw [operator?, assigns_eq, decide_eq_false inside, Bool.and_false, Bool.false_and, Bool.false_and,
    if_neg Bool.false_ne_true]

/-- An equals sign opens and closes no bracket. -/
theorem depthAfter_of_sign {cell : Cell} (sign : cell.char = '=') (depth : Nat) :
    depthAfter depth cell = depth := by
  unfold depthAfter
  rw [sign]
  split <;> rfl

/-- The last one of a list is found behind its first one. -/
theorem getLast?_cons_or {α : Type} (first : α) (rest : List α) (found : Option α) :
    (first :: rest).getLast?.or found = rest.getLast?.or (some first) := by
  rw [List.getLast?_cons]
  cases rest.getLast? with
  | none => rfl
  | some last => rfl

/-- The search finds the operator of the last site that has one, or else what was found before. -/
theorem operatorFrom_eq (offset depth : Nat) (before : List Char) (found : Option Span)
    (code : List Cell) : operatorFrom offset depth before found code =
      ((sites offset depth before code).filterMap Site.operator?).getLast?.or found := by
  fun_induction operatorFrom offset depth before found code with
  | case1 => rfl
  | case2 offset depth before found here sign =>
      obtain ⟨rfl, rfl⟩ := sign
      have last : ([] : List Cell).head?.map Cell.char ≠ some '=' := nofun
      rw [sites, sites, List.filterMap_cons, Site.operator?_sign offset before last]
      cases operatorAt? offset before with
      | none => rfl
      | some span => rfl
  | case3 offset depth before found here sign next rest again ih =>
      obtain ⟨rfl, rfl⟩ := sign
      have first : (Site.mk offset 0 before ⟨'=', .code⟩ (next :: rest)).operator? = none :=
        Site.operator?_eq_none_of_next (congrArg some again)
      rw [ih, sites, sites, depthAfter_of_sign rfl, depthAfter_of_sign again, List.filterMap_cons,
        first, List.filterMap_cons, Site.operator?_eq_none_of_last rfl, again]
      rfl
  | case4 offset depth before found here sign next rest single ih =>
      obtain ⟨rfl, rfl⟩ := sign
      have last : ((next :: rest).head?.map Cell.char) ≠ some '=' :=
        fun same => single (Option.some.inj same)
      have row : sites offset 0 before (⟨'=', .code⟩ :: next :: rest) =
          ⟨offset, 0, before, ⟨'=', .code⟩, next :: rest⟩ ::
            sites (offset + 1) 0 ('=' :: before) (next :: rest) := rfl
      rw [ih, row, List.filterMap_cons, Site.operator?_sign offset before last]
      cases operatorAt? offset before with
      | none => rfl
      | some span => exact (getLast?_cons_or span _ found).symm
  | case5 offset depth before found here after other ih =>
      have none : (Site.mk offset depth before here after).operator? = none := by
        rcases not_and_or.mp other with noSign | inside
        · exact Site.operator?_eq_none noSign
        · exact Site.operator?_eq_none_of_depth inside
      rw [ih, sites, List.filterMap_cons, none]

/-- **The search from left to right** finds the operator of a line. -/
theorem Line.operator?_eq_operatorFrom (line : Line) :
    line.operator? = operatorFrom 0 line.depth [] none line.cells := by
  rw [Line.operator?_eq, operatorFrom_eq, Option.or_none]
  rfl

/-! ### The rule of a line -/

/-- What the assignment operator of a line is. -/
structure Line.OperatorRule (line : Line) : Prop where
  bytes : line.octets.map Octet.byte = Text.bytes line.code
  none_iff : line.operator? = none ↔ ∀ position, ¬line.AssignsAt position
  some_iff : ∀ span, line.operator? = some span ↔ ∃ position, line.AssignsAt position ∧
    (∀ other, line.AssignsAt other → other ≤ position) ∧
      span = ⟨line.operatorStart position, position + 1⟩
  /-- The operator lies inside the code, and all of it is code. -/
  inside : ∀ span, line.operator? = some span →
    span.start < span.stop ∧ span.stop ≤ line.octets.length ∧
      ∀ position, span.start ≤ position → position < span.stop →
        ∃ byte, line.octets[position]? = some ⟨byte, .code⟩
  /-- A search that passes both signs of a comparison at once finds the same. -/
  search : line.operator? = operatorFrom 0 line.depth [] none line.cells

/-! ### Sites and positions -/

section Positions

variable {c : Char} {line : Line} {passed after : List Cell} {site : Site}

/-- The two bytes before a stretch tell the ASCII characters there. -/
theorem Line.byteBack?_eq_iff (split : line.cells = passed ++ after) (ascii : c.toNat < 128) :
    (line.byteBack? (size passed) 1 = some c.toUInt8 ↔
        ((passed.map Cell.char).reverse).head? = some c) ∧
      ∀ last : Char, last.toNat < 128 → ((passed.map Cell.char).reverse).head? = some last →
        (line.byteBack? (size passed) 2 = some c.toUInt8 ↔
          ((passed.map Cell.char).reverse).tail.head? = some c) := by
  constructor
  · rw [Line.byteBack?_one_eq_iff split ascii, List.head?_reverse, List.getLast?_map]
  · intro last single found
    rcases List.eq_nil_or_concat' passed with rfl | ⟨earlier, cell, rfl⟩
    · cases found
    · rw [List.map_append, List.reverse_append] at found ⊢
      cases found
      rw [List.append_assoc] at split
      rw [Line.byteBack?_two_eq_iff split single ascii]
      change _ ↔ (earlier.map Cell.char).reverse.head? = some c
      rw [List.head?_reverse, List.getLast?_map]

/-- A sign of the code assigns if the characters around it let it. -/
theorem Line.assignsAt_iff (split : line.cells = passed ++ ⟨'=', .code⟩ :: after) :
    line.AssignsAt (size passed) ↔ passed.foldl depthAfter line.depth = 0 ∧
      after.head?.map Cell.char ≠ some '=' ∧
        assignsAfter ((passed.map Cell.char).reverse) = true := by
  have sign : line.octets[size passed]? = some ⟨'='.toUInt8, .code⟩ := by
    rw [Line.octets, split]
    exact getElem?_octets (by decide)
  have behind : size passed + 1 = size (passed ++ [⟨'=', .code⟩]) := by
    rw [size_append]
    rfl
  have split' : line.cells = (passed ++ [⟨'=', .code⟩]) ++ after := by
    rw [split, List.append_assoc]
    rfl
  have next : line.byte? (size passed + 1) = some '='.toUInt8 ↔
      after.head?.map Cell.char = some '=' := by
    rw [behind]
    exact Line.byte?_eq_iff split' (by decide)
  have one {c : Char} (ascii : c.toNat < 128) := (Line.byteBack?_eq_iff split ascii).1
  have two {c : Char} (ascii : c.toNat < 128) := (Line.byteBack?_eq_iff split ascii).2 c ascii
  have last : (∀ c ∈ ['=', '!'], line.byteBack? (size passed) 1 ≠ some c.toUInt8) ↔
      ∀ c ∈ ['=', '!'], ((passed.map Cell.char).reverse).head? ≠ some c := by
    have ascii : ∀ c ∈ ['=', '!'], c.toNat < 128 := by simp
    exact forall₂_congr fun c listed => not_congr (one (ascii c listed))
  have twice : (∀ c ∈ ['<', '>'], line.byteBack? (size passed) 1 = some c.toUInt8 →
        line.byteBack? (size passed) 2 = some c.toUInt8) ↔
      ∀ c ∈ ['<', '>'], ((passed.map Cell.char).reverse).head? = some c →
        ((passed.map Cell.char).reverse).tail.head? = some c := by
    have ascii : ∀ c ∈ ['<', '>'], c.toNat < 128 := by simp
    exact forall₂_congr fun c listed =>
      imp_congr_ctx (one (ascii c listed)) fun found => two (ascii c listed) found
  rw [assignsAfter_iff, ← Line.depthAt_eq split]
  constructor
  · intro assigns
    exact ⟨assigns.outside, mt next.mpr assigns.next, last.mp assigns.last,
      twice.mp assigns.twice⟩
  · rintro ⟨outside, noSign, noLast, angles⟩
    exact ⟨sign, outside, mt next.mp noSign, last.mpr noLast, twice.mpr angles⟩

private theorem Line.assignsAt_of_mem_sites (member : site ∈ line.sites)
    (assigns : site.assigns = true) :
    line.AssignsAt site.offset := by
  obtain ⟨passed, split, placed, deep, behind⟩ := exists_of_mem_sites member
  simp only [Site.assigns_eq, Bool.and_eq_true, decide_eq_true_eq] at assigns
  obtain ⟨⟨⟨here, outside⟩, noSign⟩, before⟩ := assigns
  rw [Nat.zero_add] at placed
  rw [List.append_nil] at behind
  rw [here] at split
  rw [placed, Line.assignsAt_iff split, ← deep, ← behind]
  exact ⟨outside, noSign, before⟩

/-- A sign that assigns stands at a site. -/
theorem Line.AssignsAt.exists_site {position : Nat} (assigns : line.AssignsAt position) :
    ∃ site ∈ line.sites, site.assigns = true ∧ site.offset = position := by
  obtain ⟨passed, after, split, rfl⟩ := exists_of_getElem?_octets (by decide) assigns.sign
  obtain ⟨outside, noSign, before⟩ := (Line.assignsAt_iff split).mp assigns
  have member := mem_sites 0 line.depth [] passed ⟨'=', .code⟩ after
  rw [← split] at member
  refine ⟨_, member, ?_, Nat.zero_add _⟩
  rw [← List.append_nil (List.reverse _)] at before
  simp only [Site.assigns_eq, Bool.and_eq_true, decide_eq_true_eq]
  exact ⟨⟨⟨trivial, outside⟩, noSign⟩, before⟩

/-- The spelling of an operator is the same in bytes. -/
theorem Line.operatorStart_eq (split : line.cells = passed ++ after)
    (assigns : assignsAfter ((passed.map Cell.char).reverse) = true) :
    line.operatorStart (size passed) =
      size passed - operatorLead ((passed.map Cell.char).reverse) := by
  have one (word : List Char) (ascii : ∀ c ∈ word, c.toNat < 128) :
      line.byteBack? (size passed) 1 ∈ word.map (some ·.toUInt8) ↔
        ((passed.map Cell.char).reverse).head? ∈ word.map some := by
    simp only [List.mem_map, eq_comm (a := some _)]
    refine exists_congr fun c => and_congr_right fun listed => ?_
    exact (Line.byteBack?_eq_iff split (ascii c listed)).1
  have two : line.byteBack? (size passed) 1 ∈ ['<', '>', '/', '*'].map (some ·.toUInt8) →
      (line.byteBack? (size passed) 2 = line.byteBack? (size passed) 1 ↔
        ((passed.map Cell.char).reverse).tail.head? = ((passed.map Cell.char).reverse).head?) := by
    have ascii : ∀ c ∈ ['<', '>', '/', '*'], c.toNat < 128 := by simp
    intro found
    obtain ⟨c, listed, last⟩ := List.mem_map.mp found
    obtain ⟨first, second⟩ := Line.byteBack?_eq_iff split (ascii c listed)
    have last' := first.mp last.symm
    rw [← last, last']
    exact second c (ascii c listed) last'
  have doubled := (and_congr_right two).trans
    (and_congr_left fun _ => one ['<', '>', '/', '*'] (by simp))
  have single := one "+-*/%&|^@:".toList (by simp)
  rw [Line.operatorStart, operatorLead_eq assigns]
  simp only [doubled, single]
  split
  · rfl
  · split <;> rfl

/-! ### The last operator -/

/-- The operator of a line ends at the last site that assigns. -/
theorem Line.exists_last_of_operator? {span : Span} (found : line.operator? = some span) :
    ∃ site ∈ line.sites, site.assigns = true ∧
      (∀ other ∈ line.sites, other.assigns = true → other.offset ≤ site.offset) ∧
        span = ⟨site.offset - operatorLead site.before, site.offset + 1⟩ := by
  obtain ⟨site, last, rfl⟩ := Option.map_eq_some_iff.mp found
  obtain ⟨member, assigns⟩ := List.mem_filter.mp (List.mem_of_getLast? last)
  refine ⟨site, member, assigns, fun other otherMember otherAssigns => ?_, rfl⟩
  obtain ⟨earlier, split⟩ := List.getLast?_eq_some_iff.mp last
  have sorted := (pairwise_offset_sites 0 line.depth [] line.cells).filter Site.assigns
  have listed : other ∈ line.sites.filter Site.assigns :=
    List.mem_filter.mpr ⟨otherMember, otherAssigns⟩
  change (line.sites.filter Site.assigns).Pairwise _ at sorted
  rw [split] at listed sorted
  rcases List.mem_append.mp listed with before | same
  · exact Nat.le_of_lt ((List.pairwise_append.mp sorted).2.2 _ before _ (List.mem_singleton_self _))
  · exact Nat.le_of_eq (congrArg Site.offset (List.mem_singleton.mp same))

private theorem Line.operator?_eq_none_iff :
    line.operator? = none ↔ ∀ site ∈ line.sites, ¬site.assigns = true := by
  rw [operator?, Option.map_eq_none_iff, List.getLast?_eq_none_iff, List.filter_eq_nil_iff]

/-- The operator of a line is that of the last byte that assigns. -/
theorem Line.exists_position_of_operator? {span : Span} (found : line.operator? = some span) :
    ∃ position, line.AssignsAt position ∧ (∀ other, line.AssignsAt other → other ≤ position) ∧
      span = ⟨line.operatorStart position, position + 1⟩ := by
  obtain ⟨site, member, assigns, last, rfl⟩ := Line.exists_last_of_operator? found
  refine ⟨site.offset, Line.assignsAt_of_mem_sites member assigns, fun other otherThere => ?_, ?_⟩
  · obtain ⟨otherSite, otherMember, otherAssigns, rfl⟩ := otherThere.exists_site
    exact last otherSite otherMember otherAssigns
  · obtain ⟨passed, split, placed, -, behind⟩ := exists_of_mem_sites member
    have before : assignsAfter site.before = true := by
      simp only [Site.assigns_eq, Bool.and_eq_true] at assigns
      exact assigns.2
    rw [Nat.zero_add] at placed
    rw [List.append_nil] at behind
    rw [behind] at before ⊢
    rw [placed, Line.operatorStart_eq split before]

end Positions

/-! ### What the operator is made of -/

section Spelling

variable {depth : Nat} {text : String} {passed earlier word after : List Cell} {here : Cell}

/-- A stretch of code has bytes of code only. -/
theorem exists_getElem?_octets (code : ∀ cell ∈ word, cell.lexeme = .code) {position : Nat}
    (start : size earlier ≤ position) (stop : position < size earlier + size word) :
    ∃ byte, (octets (earlier ++ (word ++ after)))[position]? = some ⟨byte, .code⟩ := by
  have inside : position - size earlier < (octets word).length := by
    rw [length_octets]
    omega
  have found : (octets (earlier ++ (word ++ after)))[position]? =
      (octets word)[position - size earlier]? := by
    rw [octets_append, octets_append, List.getElem?_append_right (length_octets earlier ▸ start),
      length_octets, List.getElem?_append_left inside]
  obtain ⟨octet, there⟩ : ∃ octet, (octets word)[position - size earlier]? = some octet :=
    ⟨_, List.getElem?_eq_getElem inside⟩
  obtain ⟨cell, member, marked⟩ := List.mem_flatMap.mp (List.mem_of_getElem? there)
  obtain ⟨byte, -, rfl⟩ := List.mem_map.mp marked
  exact ⟨byte, by rw [found, there, code cell member]⟩

/-- What stands before code is code, quotes apart. -/
theorem Line.exists_code_before
    (split : (Line.scan depth text).cells = passed ++ here :: after) (code : here.lexeme = .code)
    {c : Char} (last : ((passed.map Cell.char).reverse).head? = some c) (noQuote : ¬IsQuote c) :
    ∃ earlier, passed = earlier ++ [⟨c, .code⟩] := by
  rcases List.eq_nil_or_concat' passed with rfl | ⟨earlier, cell, rfl⟩
  · cases last
  · rw [List.map_append, List.reverse_append] at last
    cases last
    obtain ⟨char, lexeme⟩ := here
    cases code
    rw [List.append_assoc] at split
    have plain : Mode.code.Plain := nofun
    have quoted : Mode.code.Quoted := nofun
    exact ⟨earlier, by rw [← lexeme_eq_code_before plain quoted split noQuote]⟩

/-- An operator's spelling before its sign is code. -/
theorem Line.exists_spelling
    (split : (Line.scan depth text).cells = passed ++ ⟨'=', .code⟩ :: after)
    (assigns : assignsAfter ((passed.map Cell.char).reverse) = true) :
    ∃ earlier word, passed = earlier ++ word ∧ (∀ cell ∈ word, cell.lexeme = .code) ∧
      size word = operatorLead ((passed.map Cell.char).reverse) := by
  rw [operatorLead_eq assigns]
  split
  · next doubled =>
      obtain ⟨found, again⟩ := doubled
      obtain ⟨c, listed, last⟩ := List.mem_map.mp found
      have second := again.trans last.symm
      have noQuote : ∀ c ∈ ['<', '>', '/', '*'], ¬IsQuote c := by simp [IsQuote]
      have single : ∀ c ∈ ['<', '>', '/', '*'], c.utf8Size = 1 := by simp; decide
      obtain ⟨near, rfl⟩ := Line.exists_code_before split rfl last.symm (noQuote c listed)
      rw [List.append_assoc] at split
      rw [List.map_append, List.reverse_append] at second
      obtain ⟨far, rfl⟩ := Line.exists_code_before split rfl second (noQuote c listed)
      refine ⟨far, [⟨c, .code⟩, ⟨c, .code⟩], List.append_assoc _ _ _, by simp, ?_⟩
      rw [size_cons, size_cons, single c listed]
      rfl
  · split
    · next found =>
        obtain ⟨c, listed, last⟩ := List.mem_map.mp found
        have noQuote : ∀ c ∈ "+-*/%&|^@:".toList, ¬IsQuote c := by simp [IsQuote]
        have single : ∀ c ∈ "+-*/%&|^@:".toList, c.utf8Size = 1 := by simp; decide
        obtain ⟨near, rfl⟩ := Line.exists_code_before split rfl last.symm (noQuote c listed)
        refine ⟨near, [⟨c, .code⟩], rfl, by simp, ?_⟩
        rw [size_cons, single c listed]
        rfl
    · exact ⟨passed, [], (List.append_nil _).symm, nofun, rfl⟩

/-- The bytes from an operator's start to its sign are code. -/
theorem Line.AssignsAt.exists_code {position : Nat}
    (assigns : (Line.scan depth text).AssignsAt position) :
    position < (Line.scan depth text).octets.length ∧
      (Line.scan depth text).operatorStart position ≤ position ∧
        ∀ there, (Line.scan depth text).operatorStart position ≤ there → there < position + 1 →
          ∃ byte, (Line.scan depth text).octets[there]? = some ⟨byte, .code⟩ := by
  obtain ⟨passed, after, split, rfl⟩ := exists_of_getElem?_octets (by decide) assigns.sign
  obtain ⟨-, -, before⟩ := (Line.assignsAt_iff split).mp assigns
  obtain ⟨earlier, word, rfl, code, width⟩ := Line.exists_spelling split before
  have start : (Line.scan depth text).operatorStart (size (earlier ++ word)) = size earlier := by
    rw [Line.operatorStart_eq split before, ← width, size_append, Nat.add_sub_cancel]
  have whole : ∀ cell ∈ word ++ [⟨'=', .code⟩], cell.lexeme = .code := by
    intro cell member
    rcases List.mem_append.mp member with spelled | sign
    · exact code cell spelled
    · rw [List.mem_singleton.mp sign]
  have split' : (Line.scan depth text).cells =
      earlier ++ ((word ++ [⟨'=', .code⟩]) ++ after) := by
    rw [split]
    simp only [List.append_assoc, List.cons_append, List.nil_append]
  rw [start]
  refine ⟨(List.getElem?_eq_some_iff.mp assigns.sign).1, ?_, fun there first last => ?_⟩
  · rw [size_append]
    exact Nat.le_add_right _ _
  · rw [Line.octets, split']
    refine exists_getElem?_octets whole first ?_
    have sign : size (word ++ [⟨'=', .code⟩]) = size word + 1 := size_append _ _
    rw [size_append] at last
    omega

end Spelling

/-- **The operator of a line is the last one**, with all of its spelling.  It is found at every
starting depth, whatever else the line holds. -/
theorem operatorRule (depth : Nat) (text : String) : (Line.scan depth text).OperatorRule where
  bytes := Line.map_byte_octets _
  none_iff := by
    rw [Line.operator?_eq_none_iff]
    constructor
    · intro none position assigns
      obtain ⟨site, member, assigns, -⟩ := assigns.exists_site
      exact none site member assigns
    · intro none site member assigns
      exact none _ (Line.assignsAt_of_mem_sites member assigns)
  some_iff := by
    refine fun span => ⟨Line.exists_position_of_operator?, ?_⟩
    rintro ⟨position, assigns, greatest, rfl⟩
    obtain ⟨site, member, siteAssigns, -⟩ := assigns.exists_site
    have some : (Line.scan depth text).operator? ≠ none := fun none =>
      Line.operator?_eq_none_iff.mp none site member siteAssigns
    obtain ⟨span, found⟩ := Option.ne_none_iff_exists'.mp some
    obtain ⟨other, otherAssigns, last, rfl⟩ := Line.exists_position_of_operator? found
    rw [found, Nat.le_antisymm (greatest other otherAssigns) (last position assigns)]
  inside := by
    intro span found
    obtain ⟨position, assigns, -, rfl⟩ := Line.exists_position_of_operator? found
    obtain ⟨inside, start, code⟩ := assigns.exists_code
    exact ⟨Nat.lt_succ_of_le start, inside, code⟩
  search := Line.operator?_eq_operatorFrom _

end HintFuzz.Hint
