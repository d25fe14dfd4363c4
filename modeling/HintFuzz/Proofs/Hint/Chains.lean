import HintFuzz.Proofs.Hint.Sites

/-!
# Reference chains at sites

The chain that a word starts at a site is spelled out in the code from the site on and as long
as it can be (`Site.exists_spelling_of_chain?`).  One starts there if `ids.` and the first
character of a name follow, and no word character stands before (`Site.exists_chain?_iff`).  A
chain does not reach across a separator (`local_reference?`).
-/

namespace HintFuzz.Hint

/-! ### Names -/

/-- A letter or an underscore, and then letters, digits and underscores, all of ASCII. -/
def IsIdentifier (name : List Char) : Prop :=
  ∃ first rest, name = first :: rest ∧ isNameStart first = true ∧ ∀ c ∈ rest, isNameChar c = true

/-- Names, each behind a dot. -/
def dotted (names : List (List Char)) : List Char :=
  names.flatMap fun name => '.' :: name

private theorem dotted_cons (name : List Char) (names : List (List Char)) :
    dotted (name :: names) = '.' :: (name ++ dotted names) :=
  rfl

/-- A chain that ends before a text could not go on: the text neither goes on with its last
name nor with another one behind a dot. -/
structure EndsChain (after : List Char) : Prop where
  name : ∀ c ∈ after.head?, isNameChar c = false
  member : ∀ c rest, after = '.' :: c :: rest → isNameStart c = false

private theorem memberNames_eq_nil_iff {text : List Char} :
    memberNames text = [] ↔ ∀ c rest, text = '.' :: c :: rest → isNameStart c = false := by
  constructor
  · intro none c rest same
    subst same
    by_contra start
    rw [Bool.not_eq_false] at start
    rw [memberNames, if_pos start] at none
    cases none
  · intro other
    fun_cases memberNames text with
    | case1 c rest start => exact absurd start (by simp [other c rest rfl])
    | case2 => rfl
    | case3 => rfl

private theorem isIdentifier_of_mem_memberNames {text name : List Char}
    (member : name ∈ memberNames text) :
    IsIdentifier name := by
  fun_induction memberNames text with
  | case1 first rest start ih =>
      rcases List.mem_cons.mp member with rfl | later
      · exact ⟨first, _, rfl, start, fun c taken => List.all_eq_true.mp List.all_takeWhile c taken⟩
      · exact ih later
  | case2 => cases member
  | case3 => cases member

/-- The names of a chain stand at the front of the text, and no more of them follow. -/
theorem exists_eq_dotted (text : List Char) :
    ∃ after, text = dotted (memberNames text) ++ after ∧
      (memberNames text ≠ [] → EndsChain after) := by
  fun_induction memberNames text with
  | case1 c rest start ih =>
      obtain ⟨after, split, ends⟩ := ih
      refine ⟨after, ?_, fun _ => ?_⟩
      · rw [dotted_cons, List.cons_append, List.append_assoc, ← split, List.cons_append,
          List.takeWhile_append_dropWhile]
      · by_cases last : memberNames (rest.dropWhile isNameChar) = []
        · -- The last name is as long as it can be.
          rw [last] at split
          have behind : rest.dropWhile isNameChar = after := split
          refine ⟨fun d first => ?_, memberNames_eq_nil_iff.mp (behind ▸ last)⟩
          have stop := List.head?_dropWhile_not isNameChar rest
          rw [behind, first] at stop
          simpa using stop
        · exact ends last
  | case2 => exact ⟨_, rfl, fun some => absurd rfl some⟩
  | case3 => exact ⟨_, rfl, fun some => absurd rfl some⟩

/-- A character of a reference chain. -/
def IsChainChar (c : Char) : Prop :=
  isNameChar c = true ∨ c = '.'

instance (c : Char) : Decidable (IsChainChar c) :=
  inferInstanceAs (Decidable (isNameChar c = true ∨ c = '.'))

private theorem isChainChar_of_mem_dotted {names : List (List Char)} {c : Char}
    (identifiers : ∀ name ∈ names, IsIdentifier name) (member : c ∈ dotted names) :
    IsChainChar c := by
  obtain ⟨name, nameMember, found⟩ := List.mem_flatMap.mp member
  obtain ⟨first, rest, rfl, start, named⟩ := identifiers name nameMember
  rcases List.mem_cons.mp found with rfl | found
  · exact .inr rfl
  · rcases List.mem_cons.mp found with rfl | found
    · exact .inl (isNameChar_of_isNameStart start)
    · exact .inl (named c found)

/-! ### Chains at sites -/

/-- The characters of a chain. -/
def Reference.spelling (reference : Reference) : List Char :=
  "ids".toList ++ dotted ((reference.root :: reference.path).map String.toList)

/-- The chain that the word at a site starts, whether or not it counts. -/
def Site.chain? (site : Site) : Option Reference :=
  if site.here.char = 'i' ∧ site.startsWord then
    match (afterWord? "ids".toList (site.here :: site.after)).map memberNames with
    | some (root :: fields) =>
      let length := Text.width "ids".toList +
        (root :: fields).foldr (fun name total => 1 + Text.width name + total) 0
      some
        { root := String.ofList root
          path := fields.map String.ofList
          span := ⟨site.offset, site.offset + length⟩ }
    | _ => none
  else none

/-- A chain counts unless a dot leads to it or a plain literal holds it. -/
def Site.Counts (site : Site) : Prop :=
  site.before.head? ≠ some '.' ∧ site.here.lexeme ≠ .text

instance (site : Site) : Decidable site.Counts :=
  inferInstanceAs (Decidable (site.before.head? ≠ some '.' ∧ site.here.lexeme ≠ .text))

section Sites

variable {site : Site} {reference : Reference}

/-- A site that counts has the reference that its chain is. -/
theorem Site.reference?_eq (site : Site) :
    site.reference? = if site.Counts then site.chain? else none := by
  by_cases counts : site.Counts
  · rw [if_pos counts]
    by_cases word : site.here.char = 'i' ∧ site.startsWord
    · exact (if_pos ⟨word.1, word.2, counts⟩).trans (if_pos word).symm
    · exact (if_neg fun all => word ⟨all.1, all.2.1⟩).trans (if_neg word).symm
  · rw [if_neg counts, reference?, if_neg fun all => counts all.2.2]

/-- A reference is the chain of a site that counts. -/
theorem Site.reference?_eq_some_iff :
    site.reference? = some reference ↔ site.Counts ∧ site.chain? = some reference := by
  rw [reference?_eq]
  split
  · next counts => exact (and_iff_right counts).symm
  · next ignored => exact iff_of_false nofun fun both => ignored both.1

private theorem width_dotted (names : List (List Char)) :
    Text.width (dotted names) = names.foldr (fun name total => 1 + Text.width name + total) 0 := by
  induction names with
  | nil => rfl
  | cons name names ih =>
      have dot : '.'.utf8Size = 1 := rfl
      rw [dotted_cons, Text.width_cons, Text.width_append, ih, dot, List.foldr_cons, Nat.add_assoc]

private theorem eq_append_of_afterWord? {word text : List Char} {cells : List Cell}
    (found : afterWord? word cells = some text) : cells.map Cell.char = word ++ text := by
  simp only [afterWord?] at found
  split at found
  · next front =>
      cases found
      exact (List.prefix_iff_eq_append.mp (List.isPrefixOf_iff_prefix.mp front)).symm
  · cases found

/-- A chain is spelled out from its site on, and does not go on behind its last name. -/
theorem Site.exists_spelling_of_chain? (found : site.chain? = some reference) :
    ∃ after, (site.here :: site.after).map Cell.char = reference.spelling ++ after ∧
      EndsChain after ∧
      (∀ name ∈ reference.root :: reference.path, IsIdentifier name.toList) ∧
      reference.span = ⟨site.offset, site.offset + Text.width reference.spelling⟩ := by
  unfold chain? at found
  split at found
  · split at found
    · next root fields names =>
        obtain ⟨text, word, chain⟩ := Option.map_eq_some_iff.mp names
        obtain ⟨after, split, ends⟩ := exists_eq_dotted text
        have identifiers {name : List Char} (member : name ∈ root :: fields) : IsIdentifier name :=
          isIdentifier_of_mem_memberNames (chain ▸ member)
        have spelled : reference.spelling = "ids".toList ++ dotted (root :: fields) := by
          cases found
          simp [Reference.spelling]
        refine ⟨after, ?_, ends (by simp [chain]), ?_, ?_⟩
        · rw [eq_append_of_afterWord? word, spelled, List.append_assoc, ← chain, ← split]
        · cases found
          intro name member
          rcases List.mem_cons.mp member with rfl | later
          · rw [String.toList_ofList]
            exact identifiers List.mem_cons_self
          · obtain ⟨field, fieldMember, rfl⟩ := List.mem_map.mp later
            rw [String.toList_ofList]
            exact identifiers (List.mem_cons_of_mem _ fieldMember)
        · rw [spelled, Text.width_append, width_dotted]
          cases found
          rfl
    · cases found
  · cases found

private theorem afterWord?_of_eq {word text : List Char} {cells : List Cell}
    (spelled : cells.map Cell.char = word ++ text) : afterWord? word cells = some text := by
  have front : word.isPrefixOf (word ++ text) = true :=
    List.isPrefixOf_iff_prefix.mpr (List.prefix_append word text)
  simp only [afterWord?, spelled, front, if_true, List.drop_left]

/-- A chain starts at a site where `ids.` and the first character of a name stand behind no
word character. -/
theorem Site.exists_chain?_iff : (∃ reference, site.chain? = some reference) ↔
    site.startsWord = true ∧ ∃ c rest, isNameStart c = true ∧
      (site.here :: site.after).map Cell.char = "ids.".toList ++ c :: rest := by
  constructor
  · rintro ⟨reference, found⟩
    have starts : site.startsWord = true := by
      unfold chain? at found
      split at found
      · next word => exact word.2
      · cases found
    obtain ⟨after, spelled, -, identifiers, -⟩ := exists_spelling_of_chain? found
    obtain ⟨first, rest, name, start, -⟩ := identifiers _ List.mem_cons_self
    refine ⟨starts, first, rest ++ (dotted (reference.path.map String.toList) ++ after), start, ?_⟩
    rw [spelled, Reference.spelling, List.map_cons, dotted_cons, name]
    simp
  · rintro ⟨starts, c, rest, start, spelled⟩
    have here : site.here.char = 'i' := (List.cons.inj spelled).1
    have text : (site.here :: site.after).map Cell.char = "ids".toList ++ '.' :: c :: rest := spelled
    have some : memberNames ('.' :: c :: rest) ≠ [] := by
      rw [memberNames, if_pos start]
      exact List.cons_ne_nil _ _
    obtain ⟨root, fields, names⟩ := List.exists_cons_of_ne_nil some
    rw [chain?, if_pos ⟨here, starts⟩, afterWord?_of_eq text, Option.map_some, names]
    exact ⟨_, rfl⟩

/-- References are spelled with names and dots. -/
theorem Reference.isChainChar_of_mem_spelling
    (identifiers : ∀ name ∈ reference.root :: reference.path, IsIdentifier name.toList) {c : Char}
    (member : c ∈ reference.spelling) : IsChainChar c := by
  rcases List.mem_append.mp member with word | names
  · exact .inl (List.all_eq_true.mp (by decide : "ids".toList.all isNameChar) c word)
  · refine isChainChar_of_mem_dotted (fun name nameMember => ?_) names
    obtain ⟨text, textMember, rfl⟩ := List.mem_map.mp nameMember
    exact identifiers text textMember

/-- A chain takes the first characters from its site on. -/
theorem Site.exists_chain_of_reference? (found : site.reference? = some reference) :
    ∃ chain rest, site.here :: site.after = chain ++ rest ∧
      (∀ cell ∈ chain, IsChainChar cell.char) ∧
      reference.span = ⟨site.offset, site.offset + size chain⟩ := by
  obtain ⟨after, spelled, -, identifiers, span⟩ :=
    exists_spelling_of_chain? (reference?_eq_some_iff.mp found).2
  obtain ⟨chain, rest, split, chars, -⟩ := List.map_eq_append_iff.mp spelled
  refine ⟨chain, rest, split, fun cell member => ?_, ?_⟩
  · exact Reference.isChainChar_of_mem_spelling identifiers (chars ▸ List.mem_map_of_mem member)
  · rw [span, size, chars]

/-- A chain ends no later than the code. -/
theorem Site.span_of_reference? (found : site.reference? = some reference) :
    reference.span.start = site.offset ∧
      reference.span.stop ≤ site.offset + size (site.here :: site.after) := by
  obtain ⟨chain, rest, split, -, span⟩ := Site.exists_chain_of_reference? found
  rw [span, split, size_append]
  exact ⟨rfl, by simp only; omega⟩

end Sites

/-! ### Chains and separators -/

/-- A chain further to the right. -/
def Reference.moved (reference : Reference) (offset : Nat) : Reference :=
  { reference with span := reference.span.moved offset }

private theorem isPrefixOf_append_of_notMem {word text : List Char} {c : Char} (foreign : c ∉ word)
    (rest : List Char) : word.isPrefixOf (text ++ c :: rest) = word.isPrefixOf text := by
  induction word generalizing text with
  | nil => cases text <;> rfl
  | cons first word ih =>
      obtain ⟨other, later⟩ := List.ne_and_not_mem_of_not_mem_cons foreign
      cases text with
      | nil => simp [List.isPrefixOf, other.symm]
      | cons d text => simp only [List.cons_append, List.isPrefixOf, ih later]

private theorem afterWord?_append {word : List Char} {cell : Cell} (foreign : cell.char ∉ word)
    (text rest : List Cell) :
    afterWord? word (text ++ cell :: rest) =
      (afterWord? word text).map (· ++ cell.char :: rest.map Cell.char) := by
  simp only [afterWord?, List.map_append, List.map_cons, isPrefixOf_append_of_notMem foreign]
  split
  · next found =>
      have long : word.length ≤ (text.map Cell.char).length :=
        (List.isPrefixOf_iff_prefix.mp found).length_le
      rw [Option.map_some, List.drop_append_of_le_length long]
  · rfl

/-- A chain of names ends at a character that is neither a dot nor one of names. -/
theorem memberNames_append {c : Char} (noName : isNameChar c = false) (noDot : c ≠ '.')
    (text rest : List Char) : memberNames (text ++ c :: rest) = memberNames text := by
  have noStart : isNameStart c = false := by
    cases start : isNameStart c with
    | false => rfl
    | true => rw [isNameChar_of_isNameStart start] at noName; cases noName
  fun_induction memberNames text with
  | case1 first more start ih =>
      obtain ⟨taken, dropped⟩ := takeWhile_append_stop noName more rest
      rw [List.cons_append, List.cons_append, memberNames, if_pos start, taken, dropped, ih]
  | case2 first more noFirst => rw [List.cons_append, List.cons_append, memberNames, if_neg noFirst]
  | case3 text other =>
      rw [memberNames.eq_def]
      split
      · next d more same =>
          -- Only a dot right before the character could open a name with it.
          cases text with
          | nil => exact absurd (List.cons.inj same).1 noDot
          | cons first text =>
              cases text with
              | nil =>
                  obtain ⟨-, next⟩ := List.cons.inj same
                  rw [← (List.cons.inj next).1, noStart, if_neg Bool.false_ne_true]
              | cons second text =>
                  exact absurd (congrArg (· :: second :: text) (List.cons.inj same).1) (other second text)
      · rfl

/-- A chain does not reach across a separator. -/
theorem local_reference? : Local Site.reference? fun offset reference => reference.moved offset where
  followedBy {cell} separates site rest := by
    have foreign : cell.char ∉ "ids".toList := by
      intro member
      have name := List.all_eq_true.mp (by decide : "ids".toList.all isNameChar) _ member
      exact Bool.false_ne_true (separates.not_isNameChar.symm.trans name)
    have names : (afterWord? "ids".toList (site.here :: (site.after ++ cell :: rest))).map
          memberNames =
        (afterWord? "ids".toList (site.here :: site.after)).map memberNames := by
      rw [← List.cons_append, afterWord?_append foreign, Option.map_map]
      refine Option.map_congr fun text _ => ?_
      exact memberNames_append separates.not_isNameChar separates.dot text _
    simp only [Site.reference?, Site.followedBy, Site.startsWord, names]
    rfl
  moved {c} separates {site} _ offset far := by
    have noDot : (site.before ++ c :: far).head? = some '.' ↔ site.before.head? = some '.' := by
      cases site.before with
      | nil => simp [separates.dot]
      | cons last rest => exact Iff.rfl
    have starts := site.startsWord_moved separates.word offset far
    simp only [Site.moved] at starts
    simp only [Site.reference?, Site.moved, starts, ne_eq, noDot]
    split
    · split
      · simp only [Option.map_some, Reference.moved, Span.moved, Nat.add_assoc]
      · rfl
    · rfl

end HintFuzz.Hint
