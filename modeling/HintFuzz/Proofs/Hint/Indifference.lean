import HintFuzz.Proofs.Hint.Chains
import HintFuzz.Proofs.Hint.Signature
import Mathlib.Data.List.Forall2

/-!
# What analysis does not see

The analysis of a hint depends neither on comments nor on what plain string literals hold
(`Hint.indifferent`).  Two lines that differ within a literal have the same sites around
it, in two places: before the literal at the same offsets, and behind it at offsets that
are moved as a whole (`Hint.Aligned`).  Occurrences compare offsets only, and moving
changes no comparison (`Hint.Aligned.le_iff`).
-/

namespace HintFuzz.Hint

/-! ### Offsets of two lines -/

/-- Offsets of the same place in two lines that agree up to `ahead` bytes, and from
`left` bytes on in the one and from `right` bytes on in the other. -/
def Aligned (ahead left right : Nat) (x y : Nat) : Prop :=
  x ≤ ahead ∧ y = x ∨ ∃ more, x = left + more ∧ y = right + more

section Offsets

variable {ahead left right : Nat}

/-- The order of places is the same in both lines. -/
theorem Aligned.le_iff (leftLater : ahead < left) (rightLater : ahead < right) {x y x' y' : Nat}
    (first : Aligned ahead left right x x') (second : Aligned ahead left right y y') :
    x ≤ y ↔ x' ≤ y' := by
  rcases first with ⟨early, rfl⟩ | ⟨more, rfl, rfl⟩ <;>
    rcases second with ⟨early', rfl⟩ | ⟨more', rfl, rfl⟩ <;> omega

/-- Spans of the same stretch. -/
structure Span.Aligned (ahead left right : Nat) (x y : Span) : Prop where
  start : Hint.Aligned ahead left right x.start y.start
  stop : Hint.Aligned ahead left right x.stop y.stop

private theorem Span.aligned_moved (span : Span) :
    Span.Aligned ahead left right (span.moved left) (span.moved right) :=
  ⟨.inr ⟨span.start, rfl, rfl⟩, .inr ⟨span.stop, rfl, rfl⟩⟩

/-- The same chain. -/
structure Reference.Aligned (ahead left right : Nat) (x y : Reference) : Prop where
  root : x.root = y.root
  path : x.path = y.path
  span : Span.Aligned ahead left right x.span y.span

end Offsets

/-! ### A line with a literal -/

/-- A line with a plain literal between two stretches of code. -/
def withLiteral (depth : Nat) (ahead : List Cell) (quote : Char) (text : List Char)
    (behind : List Cell) : Line :=
  ⟨depth, ahead ++ (literal quote text ++ behind)⟩

/-- Where the code behind the literal starts. -/
def behindLiteral (ahead : List Cell) (quote : Char) (text : List Char) : Nat :=
  size ahead + size (literal quote text)

section Line

variable {depth : Nat} {ahead behind : List Cell} {quote : Char} {text : List Char}

private theorem lexeme_of_mem_literal {cell : Cell} (member : cell ∈ literal quote text) :
    cell.lexeme = .text := by
  obtain ⟨c, -, rfl⟩ := List.mem_map.mp member
  rfl

private theorem lt_behindLiteral : size ahead < behindLiteral ahead quote text := by
  have positive := quote.utf8Size_pos
  have first : size (literal quote text) =
      quote.utf8Size + size ((text ++ [quote]).map (⟨·, .text⟩)) := rfl
  rw [behindLiteral, first]
  omega

private theorem foldl_depthAfter_text {text : List Cell}
    (isText : ∀ cell ∈ text, cell.lexeme = .text)
    (depth : Nat) : text.foldl depthAfter depth = depth := by
  induction text with
  | nil => rfl
  | cons cell text ih =>
      have here : depthAfter depth cell = depth := by
        rw [depthAfter, isText cell List.mem_cons_self, if_pos (by decide)]
      rw [List.foldl_cons, here]
      exact ih fun other member => isText other (List.mem_cons_of_mem _ member)

private theorem separating_literal (isQuote : IsQuote quote) (text : List Char) :
    Separating (literal quote text) where
  starts := ⟨⟨quote, .text⟩, (text ++ [quote]).map (⟨·, .text⟩), rfl, isQuote.separates⟩
  ends := ⟨(quote :: text).map (⟨·, .text⟩), ⟨quote, .text⟩, List.map_append, isQuote.separates⟩

/-! ### What is read of it -/

/-- What is read at sites is read before the literal and behind it. -/
theorem Local.filterMap_withLiteral {α : Type} {read : Site → Option α} {move : Nat → α → α}
    (isLocal : Local read move) (blind : ∀ site : Site, site.here.lexeme = .text → read site = none)
    (isQuote : IsQuote quote) (depth : Nat) (ahead : List Cell) (text : List Char)
    (behind : List Cell) :
    (withLiteral depth ahead quote text behind).sites.filterMap read =
      (sites 0 depth [] ahead).filterMap read ++
        ((sites 0 (ahead.foldl depthAfter depth) [] behind).filterMap read).map
          (move (behindLiteral ahead quote text)) := by
  have inside (site : Site) (member : site.here ∈ literal quote text) : read site = none :=
    blind site (lexeme_of_mem_literal member)
  have found := isLocal.filterMap_sites (separating_literal isQuote text) inside depth ahead behind
  rwa [foldl_depthAfter_text fun _ => lexeme_of_mem_literal] at found

private theorem references_withLiteral (isQuote : IsQuote quote) (depth : Nat) (ahead : List Cell)
    (text : List Char) (behind : List Cell) :
    (withLiteral depth ahead quote text behind).references =
      (sites 0 depth [] ahead).filterMap Site.reference? ++
        ((sites 0 (ahead.foldl depthAfter depth) [] behind).filterMap Site.reference?).map
          (·.moved (behindLiteral ahead quote text)) := by
  apply local_reference?.filterMap_withLiteral _ isQuote
  intro site isText
  exact if_neg fun all => all.2.2.2 isText

private theorem operators_withLiteral (isQuote : IsQuote quote) (depth : Nat) (ahead : List Cell)
    (text : List Char) (behind : List Cell) :
    (withLiteral depth ahead quote text behind).sites.filterMap Site.operator? =
      (sites 0 depth [] ahead).filterMap Site.operator? ++
        ((sites 0 (ahead.foldl depthAfter depth) [] behind).filterMap Site.operator?).map
          (·.moved (behindLiteral ahead quote text)) := by
  apply local_operator?.filterMap_withLiteral _ isQuote
  intro site isText
  apply Site.operator?_eq_none
  intro sign
  rw [sign] at isText
  cases isText

/-- The span of the arguments of a call. -/
def closedCall (call : Nat × List Cell) : Span :=
  ⟨call.1, closingOffset call.1 0 call.2⟩

private theorem packs_withLiteral (isQuote : IsQuote quote) (depth : Nat) (ahead : List Cell)
    (text : List Char) (behind : List Cell) :
    (withLiteral depth ahead quote text behind).packs =
      ((sites 0 depth [] ahead).filterMap Site.packCall?).map
          (fun call => closedCall (call.1, call.2 ++ (literal quote text ++ behind))) ++
        ((sites 0 (ahead.foldl depthAfter depth) [] behind).filterMap Site.pack?).map
          (·.moved (behindLiteral ahead quote text)) := by
  have blind (site : Site) (member : site.here ∈ literal quote text) : site.pack? = none := by
    refine if_neg fun both => ?_
    have isText := lexeme_of_mem_literal member
    rw [both.1] at isText
    cases isText
  have read := filterMap_sites_between blind depth ahead behind
  have far : ((literal quote text).map Cell.char).reverse = quote :: (quote :: text).reverse := by
    simp [literal, Function.comp_def]
  rw [foldl_depthAfter_text fun _ => lexeme_of_mem_literal, far] at read
  rw [Line.packs, Line.sites, withLiteral, read, List.map_filterMap, List.map_filterMap]
  refine congrArg₂ _ (List.filterMap_congr fun site _ => ?_) (List.filterMap_congr fun site _ => ?_)
  · have followed := @Site.packCall?_followedBy ⟨quote, .text⟩ isQuote site
      ((text ++ [quote]).map (⟨·, .text⟩) ++ behind)
    have whole : literal quote text ++ behind =
        ⟨quote, .text⟩ :: ((text ++ [quote]).map (⟨·, .text⟩) ++ behind) := rfl
    rw [Site.pack?_eq, whole, followed, Option.map_map]
    rfl
  · rw [Site.pack?_eq, Site.pack?_eq, List.cons_append, Site.packCall?_moved isQuote.separates.word,
      Option.map_map, Option.map_map]
    refine Option.map_congr fun call _ => ?_
    simp only [Function.comp_apply, closingOffset_moved, Span.moved]
    rfl

/-- A call that is open before a literal is closed at the same place, whatever the literal
holds. -/
theorem aligned_closedCall {call : Nat × List Cell} (whole : call.1 + size call.2 = size ahead)
    (quote : Char) (text text' : List Char) (behind : List Cell) :
    Span.Aligned (size ahead) (behindLiteral ahead quote text) (behindLiteral ahead quote text')
      (closedCall (call.1, call.2 ++ (literal quote text ++ behind)))
      (closedCall (call.1, call.2 ++ (literal quote text' ++ behind))) := by
  refine ⟨.inl ⟨by simp only [closedCall]; omega, rfl⟩, ?_⟩
  simp only [closedCall]
  rcases closingOffset_append call.1 0 call.2 with ⟨stop, early, closed⟩ | ⟨more, later⟩
  · rw [closed, closed]
    exact .inl ⟨by omega, rfl⟩
  -- The bracket is open still where the literal starts.
  · have behindIt (text : List Char) :
        closingOffset (call.1 + size call.2) more (literal quote text ++ behind) =
          behindLiteral ahead quote text + closingOffset 0 more behind := by
      rw [closingOffset_text fun _ => lexeme_of_mem_literal, whole, ← closingOffset_moved]
      rfl
    rw [later, later, behindIt, behindIt]
    exact .inr ⟨_, rfl, rfl⟩

end Line

/-! ### Lists of two lines -/

section Lists

variable {α β : Type} {related : α → α → Prop} {left right : List α}

/-- What stands before two stretches is the same, and what is behind them is moved. -/
theorem forall₂_append_moved {early late : List α} {leftMove rightMove : α → α}
    (same : ∀ item ∈ early, related item item)
    (moved : ∀ item, related (leftMove item) (rightMove item)) :
    List.Forall₂ related (early ++ late.map leftMove) (early ++ late.map rightMove) := by
  refine List.rel_append (List.forall₂_same.mpr same) ?_
  rw [List.forall₂_map_left_iff, List.forall₂_map_right_iff]
  exact List.forall₂_same.mpr fun item _ => moved item

private theorem map_eq_of_forall₂ {f g : α → β} (lists : List.Forall₂ related left right)
    (same : ∀ x y, related x y → f x = g y) : left.map f = right.map g := by
  rw [← List.forall₂_eq_eq_eq, List.forall₂_map_left_iff, List.forall₂_map_right_iff]
  exact lists.imp same

private theorem any_eq_of_forall₂ {f g : α → Bool} (lists : List.Forall₂ related left right)
    (same : ∀ x y, related x y → f x = g y) : left.any f = right.any g := by
  induction lists with
  | nil => rfl
  | cons first _ ih => rw [List.any_cons, List.any_cons, same _ _ first, ih]

private theorem getLast?_rel_of_forall₂ (lists : List.Forall₂ related left right) :
    Option.Rel related left.getLast? right.getLast? := by
  induction lists with
  | nil => exact .none
  | cons first rest ih =>
      cases rest with
      | nil => exact .some first
      | cons second rest => exact ih

end Lists

/-! ### Occurrences -/

/-- Occurrences compare places only. -/
theorem occurrences_eq_of_aligned {left right : Line} {ahead leftBehind rightBehind : Nat}
    (leftLater : ahead < leftBehind) (rightLater : ahead < rightBehind)
    (references : List.Forall₂ (Reference.Aligned ahead leftBehind rightBehind)
      left.references right.references)
    (operators : List.Forall₂ (Span.Aligned ahead leftBehind rightBehind)
      (left.sites.filterMap Site.operator?) (right.sites.filterMap Site.operator?))
    (packs : List.Forall₂ (Span.Aligned ahead leftBehind rightBehind) left.packs right.packs) :
    left.occurrences = right.occurrences := by
  have order {x y x' y' : Nat} (first : Aligned ahead leftBehind rightBehind x x')
      (second : Aligned ahead leftBehind rightBehind y y') : x ≤ y ↔ x' ≤ y' :=
    first.le_iff leftLater rightLater second
  -- Chains are taken pair by pair; what else is on the lines is compared with them as a whole.
  refine map_eq_of_forall₂ references fun one other same => ?_
  have written : (left.operator?.any fun operator => one.span.stop ≤ operator.start) =
      right.operator?.any fun operator => other.span.stop ≤ operator.start := by
    have last := getLast?_rel_of_forall₂ operators
    rw [← Line.operator?_eq, ← Line.operator?_eq] at last
    generalize left.operator? = leftLast at last ⊢
    generalize right.operator? = rightLast at last ⊢
    cases last with
    | none => rfl
    | some operator => exact decide_eq_decide.mpr (order same.span.stop operator.start)
  have packed : (left.packs.any fun arguments =>
        arguments.start ≤ one.span.start ∧ one.span.stop ≤ arguments.stop) =
      right.packs.any fun arguments =>
        arguments.start ≤ other.span.start ∧ other.span.stop ≤ arguments.stop := by
    refine any_eq_of_forall₂ packs fun arguments arguments' spans => ?_
    exact decide_eq_decide.mpr (and_congr (order spans.start same.span.start)
      (order same.span.stop spans.stop))
  rw [same.root, same.path, written, packed]

/-- The occurrences on a line are the same whatever a plain literal holds. -/
theorem occurrences_withLiteral {quote : Char} (isQuote : IsQuote quote) (depth : Nat)
    (ahead : List Cell) (text text' : List Char) (behind : List Cell) :
    (withLiteral depth ahead quote text behind).occurrences =
      (withLiteral depth ahead quote text' behind).occurrences := by
  refine occurrences_eq_of_aligned (@lt_behindLiteral ahead quote text)
    (@lt_behindLiteral ahead quote text') ?_ ?_ ?_
  · rw [references_withLiteral isQuote, references_withLiteral isQuote]
    refine forall₂_append_moved (fun reference member => ?_) fun reference =>
      ⟨rfl, rfl, reference.span.aligned_moved⟩
    obtain ⟨site, siteMember, found⟩ := List.mem_filterMap.mp member
    obtain ⟨start, stop⟩ := Site.span_of_reference? found
    have whole := size_of_mem_sites siteMember
    exact ⟨rfl, rfl, .inl ⟨by omega, rfl⟩, .inl ⟨by omega, rfl⟩⟩
  · rw [operators_withLiteral isQuote, operators_withLiteral isQuote]
    refine forall₂_append_moved (fun operator member => ?_) Span.aligned_moved
    obtain ⟨site, siteMember, found⟩ := List.mem_filterMap.mp member
    have whole := size_of_mem_sites siteMember
    have here := site.here.char.utf8Size_pos
    rw [size_cons] at whole
    unfold Site.operator? at found
    split at found
    · cases found
      refine ⟨.inl ⟨?_, rfl⟩, .inl ⟨?_, rfl⟩⟩
      · simp only
        omega
      · simp only
        omega
    · cases found
  · rw [packs_withLiteral isQuote, packs_withLiteral isQuote]
    refine List.rel_append ?_ ?_
    · rw [List.forall₂_map_left_iff, List.forall₂_map_right_iff]
      refine List.forall₂_same.mpr fun call member => ?_
      obtain ⟨site, siteMember, found⟩ := List.mem_filterMap.mp member
      exact aligned_closedCall ((Site.size_packCall? found).trans (size_of_mem_sites siteMember))
        quote text text' behind
    · rw [List.forall₂_map_left_iff, List.forall₂_map_right_iff]
      exact List.forall₂_same.mpr fun span _ => span.aligned_moved

private theorem closingDepth_withLiteral (depth : Nat) (ahead : List Cell) (quote : Char)
    (text : List Char) (behind : List Cell) :
    (withLiteral depth ahead quote text behind).closingDepth =
      behind.foldl depthAfter (ahead.foldl depthAfter depth) := by
  rw [Line.closingDepth, withLiteral, List.foldl_append, List.foldl_append,
    foldl_depthAfter_text fun _ => lexeme_of_mem_literal]

/-! ### Hints -/

/-- A line with a text between two quotes. -/
def quotedLine (ahead : String) (quote : Char) (text behind : String) : String :=
  ahead ++ String.singleton quote ++ text ++ String.singleton quote ++ behind

/-- A place in a line at which a plain literal can start. -/
structure StartsLiteral (ahead : String) (quote : Char) : Prop where
  isQuote : IsQuote quote
  /-- The line is neither in a string nor in a comment. -/
  code : Mode.code.after [] ahead.toList = .code
  /-- The word before the quote does not mark it as that of an f-string. -/
  plain : marksFormat ahead.toList.reverse = false

/-- A line with a plain literal, scanned. -/
theorem scan_quotedLine {ahead text : String} {quote : Char} (starts : StartsLiteral ahead quote)
    (holds : Holds quote text.toList) (depth : Nat) (behind : String) :
    Line.scan depth (quotedLine ahead quote text behind) =
      withLiteral depth (cells .code [] ahead.toList) quote text.toList
        (cells .code [] behind.toList) := by
  have characters : (quotedLine ahead quote text behind).toList =
      ahead.toList ++ quote :: (text.toList ++ quote :: behind.toList) := by
    simp [quotedLine]
  have near := cells_behind starts.isQuote.not_isNameChar .code []
    (text.toList.reverse ++ quote :: ahead.toList.reverse) behind.toList
  rw [Line.scan, withLiteral, characters, cells_append, starts.code, List.append_nil,
    cells_literal starts.isQuote starts.plain holds]
  rw [List.nil_append] at near
  rw [near]

/-- Lines that say the same wherever brackets are open before them. -/
def SameLine (line line' : String) : Prop :=
  ∀ depth, (Line.scan depth line).occurrences = (Line.scan depth line').occurrences ∧
    (Line.scan depth line).closingDepth = (Line.scan depth line').closingDepth

private theorem occurrences_eq_of_sameLine {line line' : String} (same : SameLine line line')
    (earlier later : List String) (depth : Nat) :
    occurrences depth (earlier ++ line :: later) = occurrences depth (earlier ++ line' :: later) := by
  induction earlier generalizing depth with
  | nil => simp only [List.nil_append, occurrences, (same depth).1, (same depth).2]
  | cons first earlier ih => simp only [List.cons_append, occurrences, ih]

private theorem sameLine_quotedLine {ahead text text' : String} {quote : Char}
    (starts : StartsLiteral ahead quote) (holds : Holds quote text.toList)
    (holds' : Holds quote text'.toList) (behind : String) :
    SameLine (quotedLine ahead quote text behind) (quotedLine ahead quote text' behind) := by
  intro depth
  rw [scan_quotedLine starts holds, scan_quotedLine starts holds']
  refine ⟨occurrences_withLiteral starts.isQuote depth _ _ _ _, ?_⟩
  rw [closingDepth_withLiteral, closingDepth_withLiteral]

/-- A line that does not end in a string. -/
def EndsOutside (line : String) : Prop :=
  ∀ quote kind escaped, Mode.code.after [] line.toList ≠ .literal quote kind escaped

private theorem sameLine_comment {line : String} (outside : EndsOutside line) (comment : String) :
    SameLine line (line ++ "#" ++ comment) := by
  have characters : (line ++ "#" ++ comment).toList = line.toList ++ '#' :: comment.toList := by
    simp
  have scanned (depth : Nat) : Line.scan depth (line ++ "#" ++ comment) = Line.scan depth line := by
    rw [Line.scan, Line.scan, characters, cells_append]
    cases ended : Mode.code.after [] line.toList with
    | code => rw [cells, Mode.read, if_pos rfl, List.append_nil]
    | literal quote kind escaped => exact absurd ended (outside quote kind escaped)
    | comment => rw [cells_comment, List.append_nil]
  intro depth
  rw [scanned]
  exact ⟨rfl, rfl⟩

private theorem analyze_eq_of_sameLine {line line' : String} (same : SameLine line line')
    (id : HintId)
    (earlier later : List String) :
    Hint.analyze ⟨id, earlier ++ line :: later⟩ = Hint.analyze ⟨id, earlier ++ line' :: later⟩ := by
  simp only [Hint.analyze, occurrences_eq_of_sameLine same]

/-- What does not show in the analysis of a hint. -/
structure Indifferent : Prop where
  /-- What a plain literal holds, as long as it has no escapes. -/
  literal : ∀ (id : HintId) (earlier later : List String) (ahead text text' behind : String)
    (quote : Char), StartsLiteral ahead quote → Holds quote text.toList → Holds quote text'.toList →
    Hint.analyze ⟨id, earlier ++ quotedLine ahead quote text behind :: later⟩ =
      Hint.analyze ⟨id, earlier ++ quotedLine ahead quote text' behind :: later⟩
  /-- A comment at the end of a line. -/
  comment : ∀ (id : HintId) (earlier later : List String) (line comment : String),
    EndsOutside line →
    Hint.analyze ⟨id, earlier ++ line :: later⟩ =
      Hint.analyze ⟨id, earlier ++ (line ++ "#" ++ comment) :: later⟩

/-- **Comments and literals do not show** in the analysis of a hint. -/
theorem indifferent : Indifferent where
  literal id earlier later _ _ _ behind _ starts holds holds' :=
    analyze_eq_of_sameLine (sameLine_quotedLine starts holds holds' behind) id earlier later
  comment id earlier later _ comment outside :=
    analyze_eq_of_sameLine (sameLine_comment outside comment) id earlier later

/-- A bracket, a hash, an operator and a chain in a literal among the arguments of a call
that goes on behind it. -/
theorem indifferent_call :
    StartsLiteral "ids.a.low = pack(ids.b, " '"' ∧ Holds '"' " ids.c == ) # f'pack(".toList ∧
      Holds '"' "".toList ∧
      Hint.analyze ⟨7, ["(", quotedLine "ids.a.low = pack(ids.b, " '"' " ids.c == ) # f'pack("
        ", ids.d) # ids.e"]⟩ =
      Hint.analyze ⟨7, ["(", quotedLine "ids.a.low = pack(ids.b, " '"' "" ", ids.d) # ids.e"]⟩ := by
  have starts : StartsLiteral "ids.a.low = pack(ids.b, " '"' :=
    ⟨.inr rfl, by decide +kernel, by decide +kernel⟩
  have holds : Holds '"' " ids.c == ) # f'pack(".toList := by decide +kernel
  have empty : Holds '"' "".toList := fun _ => nofun
  exact ⟨starts, holds, empty, indifferent.literal 7 ["("] [] _ _ _ _ _ starts holds empty⟩

end HintFuzz.Hint
