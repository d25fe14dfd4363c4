import HintFuzz.Proofs.Hint.Chains
import HintFuzz.Proofs.Hint.Packing

/-!
# The reference chains of a line

The reference chains of a line start where `ids.` and the first character of a name stand,
unless a word character or a dot stands before them or a plain literal holds them
(`Line.ChainStart`).  Each of them is spelled out in the code and as long as it can be
(`Reference.SpelledOn`), and no two of them overlap (`referenceRule`).

A search that goes on behind each chain that it meets finds the same chains
(`searchFrom_eq`): what stands before a place inside a chain is a character of the chain, so
that no chain that counts is hidden by another one, not even by one that does not count
(`pairwise_hides_sites`).
-/

namespace HintFuzz.Hint

/-! ### What a chain hides -/

/-- No chain starts right behind a character of a chain. -/
theorem Site.reference?_eq_none_of_before {site : Site} {c : Char}
    (last : site.before.head? = some c) (chain : IsChainChar c) : site.reference? = none := by
  obtain ⟨far, before⟩ := List.head?_eq_some_iff.mp last
  rw [reference?_eq]
  rcases chain with name | rfl
  · have inWord : ¬(site.here.char = 'i' ∧ site.startsWord = true) := by
      intro word
      have starts := word.2
      rw [startsWord, before] at starts
      simp [isWord_of_isNameChar name] at starts
    rw [chain?, if_neg inWord, ite_self]
  · rw [if_neg fun counts : site.Counts => counts.1 last]

/-- Of two sites, the first one hides the other if its chain goes on there: no chain that counts
starts at the second one. -/
def Site.Hides (site later : Site) : Prop :=
  ∀ reference, site.chain? = some reference → later.offset < reference.span.stop →
    later.reference? = none

/-- Every site of a line hides the later ones that its chain covers. -/
theorem pairwise_hides_sites (offset depth : Nat) (before : List Char) (text : List Cell) :
    (sites offset depth before text).Pairwise Site.Hides := by
  induction text generalizing offset depth before with
  | nil => exact .nil
  | cons cell rest ih =>
      refine List.pairwise_cons.mpr ⟨fun later member reference found inside => ?_, ih _ _ _⟩
      obtain ⟨passed, split, placed, -, behind⟩ := exists_of_mem_sites member
      obtain ⟨after, spelled, -, identifiers, span⟩ := Site.exists_spelling_of_chain? found
      -- What is passed on the way to the later site is a part of the chain.
      have front : (cell :: passed).map Cell.char <+: (cell :: rest).map Cell.char := by
        rw [split]
        exact ((List.prefix_cons_inj cell).mpr (List.prefix_append passed _)).map Cell.char
      have part : (cell :: passed).map Cell.char <+: reference.spelling := by
        refine Text.prefix_of_width_le front (spelled ▸ List.prefix_append _ _) ?_
        change size (cell :: passed) ≤ _
        rw [span] at inside
        rw [size_cons]
        simp only at inside
        omega
      have last : later.before.head? = ((cell :: passed).map Cell.char).getLast? := by
        have whole : later.before = ((cell :: passed).map Cell.char).reverse ++ before := by
          rw [behind, List.map_cons, List.reverse_cons, List.append_assoc]
          rfl
        rw [whole, List.head?_append_of_ne_nil _ (by simp), List.head?_reverse]
      obtain ⟨c, found⟩ : ∃ c, ((cell :: passed).map Cell.char).getLast? = some c :=
        ⟨_, List.getLast?_eq_some_getLast (List.cons_ne_nil _ _)⟩
      have member := part.subset (List.mem_of_getLast? found)
      apply Site.reference?_eq_none_of_before (last.trans found)
      exact Reference.isChainChar_of_mem_spelling identifiers member

/-- The chains that count among those that a search meets.  Wherever a chain starts, the search
goes on behind it, at `free`. -/
def searchFrom (free : Nat) : List Site → List Reference
  | [] => []
  | site :: rest =>
    if site.offset < free then searchFrom free rest
    else
      match site.chain? with
      | none => searchFrom free rest
      | some reference =>
        if site.Counts then reference :: searchFrom reference.span.stop rest
        else searchFrom reference.span.stop rest

/-- A search misses no chain that counts. -/
theorem searchFrom_eq {free : Nat} {found : List Site} (hides : found.Pairwise Site.Hides)
    (passed : ∀ site ∈ found, site.offset < free → site.reference? = none) :
    searchFrom free found = found.filterMap Site.reference? := by
  induction found generalizing free with
  | nil => rfl
  | cons site rest ih =>
      obtain ⟨hidden, later⟩ := List.pairwise_cons.mp hides
      have still : ∀ other ∈ rest, other.offset < free → other.reference? = none :=
        fun other member => passed other (List.mem_cons_of_mem _ member)
      rw [searchFrom, List.filterMap_cons]
      by_cases inside : site.offset < free
      · rw [if_pos inside, passed site List.mem_cons_self inside]
        exact ih later still
      · rw [if_neg inside, Site.reference?_eq]
        cases chain : site.chain? with
        | none =>
            rw [ite_self]
            exact ih later still
        | some reference =>
            have behind := ih later fun other member => hidden other member reference chain
            by_cases counts : site.Counts
            · simp only [if_pos counts, behind]
            · simp only [if_neg counts, behind]

/-! ### The chains of a line -/

/-- A chain that counts starts between two stretches of the code of a line. -/
structure StartsChain (passed behind : List Cell) : Prop where
  word : ∃ c rest, isNameStart c = true ∧ behind.map Cell.char = "ids.".toList ++ c :: rest
  before : ∀ last ∈ passed.getLast?, isWord last.char = false ∧ last.char ≠ '.'
  /-- The word is code or stands in an f-string. -/
  visible : ∀ here ∈ behind.head?, here.lexeme ≠ .text

/-- A chain that counts starts at a position of the code of a line. -/
def Line.ChainStart (line : Line) (position : Nat) : Prop :=
  ∃ passed behind, line.cells = passed ++ behind ∧ position = size passed ∧
    StartsChain passed behind

/-- A chain stands in the code of a line with all of its names. -/
structure Reference.SpelledOn (reference : Reference) (line : Line) : Prop where
  identifiers : ∀ name ∈ reference.root :: reference.path, IsIdentifier name.toList
  spelled : ∃ before after, line.code.toList = before ++ (reference.spelling ++ after) ∧
    EndsChain after ∧
      reference.span = ⟨Text.width before, Text.width (before ++ reference.spelling)⟩

/-- What the reference chains of a line of text are. -/
structure Line.ReferenceRule (line : Line) (text : String) : Prop where
  code : line.code.toList <+: text.toList
  ascending : (line.references.map (·.span.start)).Pairwise (· < ·)
  starts : ∀ position,
    position ∈ line.references.map (·.span.start) ↔ line.ChainStart position
  spelled : ∀ reference ∈ line.references, reference.SpelledOn line
  disjoint : line.references.Pairwise fun left right => left.span.stop ≤ right.span.start
  inside : ∀ reference ∈ line.references, reference.span.stop ≤ Text.width line.code.toList
  /-- A search that goes on behind each chain finds the same. -/
  search : line.references = searchFrom 0 line.sites

section Line

variable {line : Line} {site : Site} {reference : Reference} {passed : List Cell}

private theorem chars_cells_prefix (mode : Mode) (before text : List Char) :
    (cells mode before text).map Cell.char <+: text := by
  induction text generalizing mode before with
  | nil => exact List.prefix_refl _
  | cons c rest ih =>
      rw [cells]
      split
      · exact (List.prefix_cons_inj c).mpr (ih _ _)
      · exact List.nil_prefix

private theorem startsChain_iff (before : site.before = (passed.map Cell.char).reverse ++ []) :
    (∃ reference, site.reference? = some reference) ↔
      StartsChain passed (site.here :: site.after) := by
  have last : site.before.head? = passed.getLast?.map Cell.char := by
    rw [before, List.append_nil, List.head?_reverse, List.getLast?_map]
  have noDot : site.before.head? ≠ some '.' ↔ ∀ last ∈ passed.getLast?, last.char ≠ '.' := by
    rw [last]
    cases passed.getLast? <;> simp
  have counted : (∃ reference, site.reference? = some reference) ↔
      site.Counts ∧ ∃ reference, site.chain? = some reference := by
    simp only [Site.reference?_eq_some_iff, exists_and_left]
  rw [counted, Site.exists_chain?_iff, Site.Counts, noDot, Site.startsWord_iff before]
  constructor
  · rintro ⟨⟨dots, visible⟩, words, c, rest, start, spelled⟩
    refine ⟨⟨c, rest, start, spelled⟩, fun last member => ⟨words last member, dots last member⟩, ?_⟩
    rintro _ ⟨⟩
    exact visible
  · rintro ⟨word, boundary, visible⟩
    exact ⟨⟨fun last member => (boundary last member).2, visible _ rfl⟩,
      fun last member => (boundary last member).1, word⟩

private theorem Line.chainStart_iff (position : Nat) :
    position ∈ line.references.map (·.span.start) ↔ line.ChainStart position := by
  constructor
  · intro member
    obtain ⟨reference, listed, rfl⟩ := List.mem_map.mp member
    obtain ⟨site, siteMember, found⟩ := List.mem_filterMap.mp listed
    obtain ⟨passed, split, placed, -, before⟩ := exists_of_mem_sites siteMember
    rw [Nat.zero_add] at placed
    have start := (Site.span_of_reference? found).1
    exact ⟨passed, _, split, start.trans placed, (startsChain_iff before).mp ⟨reference, found⟩⟩
  · rintro ⟨passed, behind, split, rfl, starts⟩
    obtain ⟨c, rest, -, spelled⟩ := starts.word
    cases behind with
    | nil => cases spelled
    | cons here after =>
        have member := mem_sites 0 line.depth [] passed here after
        rw [← split] at member
        obtain ⟨reference, found⟩ :=
          (@startsChain_iff ⟨0 + size passed, _, _, here, after⟩ passed rfl).mpr starts
        refine List.mem_map.mpr ⟨reference, List.mem_filterMap.mpr ⟨_, member, found⟩, ?_⟩
        rw [(Site.span_of_reference? found).1, Nat.zero_add]

private theorem Line.spelledOn (member : reference ∈ line.references) :
    reference.SpelledOn line := by
  obtain ⟨site, siteMember, found⟩ := List.mem_filterMap.mp member
  obtain ⟨passed, split, placed, -, -⟩ := exists_of_mem_sites siteMember
  obtain ⟨after, spelled, ends, identifiers, span⟩ :=
    Site.exists_spelling_of_chain? (Site.reference?_eq_some_iff.mp found).2
  refine ⟨identifiers, passed.map Cell.char, after, ?_, ends, ?_⟩
  · rw [Line.code, String.toList_ofList, split, List.map_append, spelled]
  · rw [span, placed, Nat.zero_add, Text.width_append]

/-- A reference ends within the code of its line. -/
theorem Reference.SpelledOn.inside (spelled : reference.SpelledOn line) :
    reference.span.stop ≤ Text.width line.code.toList := by
  obtain ⟨before, after, split, -, span⟩ := spelled.spelled
  rw [split, span, ← List.append_assoc, Text.width_append _ after]
  exact Nat.le_add_right _ _

/-- No chain starts before the end of an earlier one. -/
theorem Line.pairwise_disjoint (line : Line) :
    line.references.Pairwise fun left right => left.span.stop ≤ right.span.start := by
  refine (pairwise_hides_sites 0 line.depth [] line.cells).filterMap _ ?_
  intro site later hides left found right foundRight
  have chain := (Site.reference?_eq_some_iff.mp found).2
  by_contra overlap
  rw [(Site.span_of_reference? foundRight).1, Nat.not_le] at overlap
  rw [hides left chain overlap] at foundRight
  cases foundRight

private theorem Line.pairwise_start (line : Line) :
    (line.references.map (·.span.start)).Pairwise (· < ·) := by
  rw [List.pairwise_map]
  refine (pairwise_offset_sites 0 line.depth [] line.cells).filterMap _ ?_
  intro site later before left found right foundRight
  rw [(Site.span_of_reference? found).1, (Site.span_of_reference? foundRight).1]
  exact before

private theorem Line.references_eq_searchFrom (line : Line) :
    line.references = searchFrom 0 line.sites := by
  refine (searchFrom_eq (pairwise_hides_sites 0 line.depth [] line.cells) ?_).symm
  exact fun site _ early => absurd early (Nat.not_lt_zero _)

end Line

/-- **The chains of a line are the longest ones that start where a chain can start**, each found
once, from left to right. -/
theorem referenceRule (depth : Nat) (text : String) :
    (Line.scan depth text).ReferenceRule text where
  code := by
    rw [Line.code, String.toList_ofList]
    exact chars_cells_prefix .code [] text.toList
  ascending := Line.pairwise_start _
  starts := Line.chainStart_iff
  spelled _ := Line.spelledOn
  disjoint := Line.pairwise_disjoint _
  inside _ member := (Line.spelledOn member).inside
  search := Line.references_eq_searchFrom _

/-- A word that ends in `ids`, an attribute of something else and a chain in a plain literal do
not count, and one in an f-string does. -/
example : (Line.scan 0 "ids.a.b. = xids.c + foo.ids.d + 'ids.e' + f'{ids.f}'").references =
    [⟨"a", ["b"], ⟨0, 7⟩⟩, ⟨"f", [], ⟨45, 50⟩⟩] := by
  decide +kernel

end HintFuzz.Hint
