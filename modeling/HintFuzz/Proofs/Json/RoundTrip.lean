import HintFuzz.Json.Printer
import HintFuzz.Json.Reader
import HintFuzz.Proofs.Decimal.Digits

/-!
# Writing and reading JSON

A value that is written on one line is read again as it was (`Json.ofText?_compact`),
provided that it is `Plain`: its numbers are natural and its texts are whole, so that no
escape stands for half a pair.  The reader is followed on a text with something behind the
value, which may only be what closes or separates values, since digits would go on.

What is written has no control character in it (`Json.Plain.code_compactChars`).
-/

namespace HintFuzz

namespace Json

private theorem skipBlanks_cons {c : Char} (visible : isBlank c = false) (rest : List Char) :
    skipBlanks (c :: rest) = c :: rest := by
  rw [skipBlanks, List.dropWhile_cons_of_neg (by rw [visible]; exact Bool.false_ne_true)]

private theorem hexValue?_digitChar {digit : Nat} (small : digit < 16) :
    hexValue? digit.digitChar = some digit := by
  revert digit
  decide

private theorem hexNumber?_control {code : Nat} (small : code < 32) :
    hexNumber? ['0', '0', (code / 16).digitChar, (code % 16).digitChar] = some code := by
  have zero : hexValue? '0' = some 0 := rfl
  have high : hexValue? (code / 16).digitChar = some (code / 16) := hexValue?_digitChar (by omega)
  have low : hexValue? (code % 16).digitChar = some (code % 16) := hexValue?_digitChar (by omega)
  simp only [hexNumber?, List.foldlM_cons, List.foldlM_nil, zero, high, low, Option.map_some,
    Option.bind_eq_bind, Option.bind_some, Option.pure_def, Option.some.injEq]
  omega

/-- A code in front of those that are read. -/
abbrev withCode (code : Nat) (read : List Nat × List Char) : List Nat × List Char :=
  (code :: read.1, read.2)

private theorem readCodes_letter {letter c : Char} (stands : longEscape? letter = some c)
    (rest : List Char) :
    readCodes ('\\' :: letter :: rest) = (readCodes rest).map (withCode c.toNat) := by
  have other : letter ≠ 'u' := by
    rintro rfl
    cases stands
  rw [readCodes.eq_4 _ _ (fun _ _ _ _ _ same _ => other same), stands]
  cases readCodes rest <;> rfl

private theorem readCodes_control {c : Char} (control : c.toNat < 32) (rest : List Char) :
    readCodes ('\\' :: 'u' :: '0' :: '0' :: (c.toNat / 16).digitChar :: (c.toNat % 16).digitChar ::
      rest) = (readCodes rest).map (withCode c.toNat) := by
  rw [readCodes.eq_3, hexNumber?_control control]
  cases readCodes rest <;> rfl

private theorem readCodes_plain {c : Char} (visible : 32 ≤ c.toNat) (noQuote : c ≠ '"')
    (noSlash : c ≠ '\\')
    (rest : List Char) : readCodes (c :: rest) = (readCodes rest).map (withCode c.toNat) := by
  rw [readCodes.eq_5 _ _ noQuote (fun _ _ _ _ _ slash _ => noSlash slash)
    (fun _ _ slash _ => noSlash slash), if_neg (not_or.mpr ⟨Nat.not_lt.mpr visible, noSlash⟩)]
  cases readCodes rest <;> rfl

private theorem longEscape?_shortEscape? {c letter : Char} (short : shortEscape? c = some letter) :
    longEscape? letter = some c := by
  unfold shortEscape? at short
  split at short <;> cases short <;> rfl

private theorem readCodes_escaped (c : Char) (rest : List Char) :
    readCodes (escaped c ++ rest) = (readCodes rest).map (withCode c.toNat) := by
  unfold escaped
  split
  · next letter short => exact readCodes_letter (longEscape?_shortEscape? short) rest
  · next plain =>
    have noQuote : c ≠ '"' := by
      rintro rfl
      cases plain
    have noSlash : c ≠ '\\' := by
      rintro rfl
      cases plain
    split
    · next control => exact readCodes_control control rest
    · next visible => exact readCodes_plain (Nat.not_lt.mp visible) noQuote noSlash rest

private theorem readCodes_quoted (text : List Char) (rest : List Char) :
    readCodes (text.flatMap escaped ++ '"' :: rest) = some (text.map Char.toNat, rest) := by
  induction text with
  | nil => exact readCodes.eq_2 rest
  | cons c text ih =>
      rw [List.flatMap_cons, List.append_assoc, readCodes_escaped, ih]
      rfl

private theorem not_half (c : Char) : isHighHalf c.toNat = false ∧ isLowHalf c.toNat = false := by
  have valid : c.toNat < 0xD800 ∨ 0xDFFF < c.toNat ∧ c.toNat < 0x110000 := c.valid
  simp only [isHighHalf, isLowHalf, Bool.and_eq_false_iff, decide_eq_false_iff_not]
  omega

private theorem joinHalves_codes (text : List Char) :
    joinHalves (text.map Char.toNat) = some text := by
  induction text with
  | nil => rfl
  | cons c rest ih =>
      obtain ⟨high, low⟩ := not_half c
      rw [List.map_cons, joinHalves.eq_def]
      simp only [high, low, Bool.false_eq_true, if_false, ih, Option.map_some, Char.ofNat_toNat]

/-- A text between quotation marks is read as it was. -/
theorem readText_quoted (text : String) (rest : List Char) :
    readText (text.toList.flatMap escaped ++ '"' :: rest) = some (some text, rest) := by
  simp only [readText, readCodes_quoted, Option.map_some, joinHalves_codes, String.ofList_toList]

/-! ### Numbers -/

/-- What may follow a value in a container, or nothing. -/
def Closes (rest : List Char) : Prop :=
  ∀ c ∈ rest.head?, c = ',' ∨ c = ']' ∨ c = '}'

private theorem Closes.takeWhile_digits {rest : List Char} (closes : Closes rest) :
    rest.takeWhile Char.isDigit = [] ∧ rest.dropWhile Char.isDigit = rest := by
  cases rest with
  | nil => exact ⟨rfl, rfl⟩
  | cons c rest =>
      have noDigit : c.isDigit = false := by
        rcases closes c rfl with rfl | rfl | rfl <;> rfl
      simp [noDigit]

private theorem splitDigits_append {digits rest : List Char}
    (allDigits : ∀ c ∈ digits, c.isDigit = true)
    (closes : Closes rest) : splitDigits (digits ++ rest) = (digits, rest) := by
  rw [splitDigits, List.takeWhile_append_of_pos allDigits, List.dropWhile_append_of_pos allDigits,
    closes.takeWhile_digits.1, closes.takeWhile_digits.2, List.append_nil]

/-- What closes a number is no fraction. -/
theorem Closes.readFraction {rest : List Char} (closes : Closes rest) :
    readFraction rest = some ([], rest) := by
  cases rest with
  | nil => rfl
  | cons c rest => rcases closes c rfl with rfl | rfl | rfl <;> rfl

/-- What closes a number is no exponent. -/
theorem Closes.readExponent {rest : List Char} (closes : Closes rest) :
    readExponent rest = some ([], rest) := by
  cases rest with
  | nil => rfl
  | cons c rest => rcases closes c rfl with rfl | rfl | rfl <;> rfl

private theorem readWhole_decimal (number : Nat) {rest : List Char} (closes : Closes rest) :
    readWhole ((toString number).toList ++ rest) = some ((toString number).toList, rest) := by
  have digits : ∀ c ∈ (toString number).toList, c.isDigit = true :=
    fun _ => isDigit_of_mem_decimal
  have split := splitDigits_append digits closes
  obtain ⟨first, more, decimal, -, leading⟩ := exists_decimal_eq number
  rw [decimal] at split ⊢
  have read : readDigits (first :: more ++ rest) = some (first :: more, rest) := by
    rw [readDigits, split]
  rw [readWhole, read]
  split
  · next zeros =>
    cases zeros
    cases leading rfl
  · rfl

private theorem readMagnitude_decimal (number : Nat) {rest : List Char} (closes : Closes rest) :
    readMagnitude ((toString number).toList ++ rest) = some ((toString number).toList, rest) := by
  simp only [readMagnitude, readWhole_decimal number closes, closes.readFraction,
    closes.readExponent, Option.bind_eq_bind, Option.bind_some, Option.pure_def, List.append_nil]

/-- A digit starts no word, sign, text or container. -/
theorem ne_of_isDigit {c other : Char} (digit : c.isDigit = true) (noDigit : other.isDigit = false) :
    c ≠ other := by
  rintro rfl
  rw [digit] at noDigit
  cases noDigit

private theorem word_starts :
    ∀ word ∈ words, ∃ letter letters, word.1 = letter :: letters ∧ letter.isDigit = false := by
  intro word member
  simp only [words, List.mem_cons, List.not_mem_nil, or_false] at member
  rcases member with rfl | rfl | rfl <;> exact ⟨_, _, rfl, rfl⟩

private theorem readScalar_decimal (number : Nat) {rest : List Char} (closes : Closes rest) :
    readScalar ((toString number).toList ++ rest) = some (.ofNat number, rest) := by
  have magnitude := readMagnitude_decimal number closes
  obtain ⟨first, more, decimal, digit, -⟩ := exists_decimal_eq number
  rw [decimal] at magnitude
  have noWord : words.find? (fun word => word.1.isPrefixOf (first :: more ++ rest)) = none := by
    rw [List.find?_eq_none]
    intro word member
    obtain ⟨letter, letters, spelled, noDigit⟩ := word_starts word member
    simp only [spelled, List.cons_append, List.isPrefixOf, Bool.and_eq_true, beq_iff_eq]
    exact fun same => ne_of_isDigit digit noDigit same.1.symm
  have read : readNumber (first :: more ++ rest) = some (first :: more, rest) := by
    rw [List.cons_append, readNumber.eq_2 _ (fun _ same => ?_)]
    · exact magnitude
    · exact ne_of_isDigit digit rfl (List.cons.inj same).1
  rw [readScalar, decimal, noWord]
  simp only [read, Option.map_some, ofNat]
  rw [← decimal, String.ofList_toList]

/-! ### Values -/

/-- Values without fractions and signs, whose texts and names are all whole. -/
inductive Plain : Json → Prop
  | null : Plain .null
  | bool (value : Bool) : Plain (.bool value)
  | natural (number : Nat) : Plain (.ofNat number)
  | text (text : String) : Plain (.ofString text)
  | array {items : List Json} (plain : ∀ item ∈ items, Plain item) : Plain (.array items)
  | members {members : List (String × Json)} (plain : ∀ member ∈ members, Plain member.2) :
      Plain (.ofMembers members)

/-- A written value is read again, whatever closes it. -/
def Reads (value : Json) : Prop :=
  ∀ fuel rest, 2 * value.compactChars.length < fuel → Closes rest →
    readValue fuel (value.compactChars ++ rest) = some (value, rest)

private theorem closes_compactItems (items : List Json) (rest : List Char) :
    Closes (compactItems items ++ rest) := by
  intro c first
  cases items <;> simp [compactItems] at first <;> simp [← first]

private theorem closes_compactMembers (members : List (Json.Text × Json)) (rest : List Char) :
    Closes (compactMembers members ++ rest) := by
  intro c first
  cases members <;> simp [compactMembers] at first <;> simp [← first]

private theorem compactChars_starts {value : Json} (plain : Plain value) :
    ∃ first rest, value.compactChars = first :: rest ∧ isBlank first = false ∧ first ≠ ']' := by
  cases plain with
  | null => exact ⟨_, _, rfl, rfl, by decide⟩
  | bool value => cases value <;> exact ⟨_, _, rfl, rfl, by decide⟩
  | natural number =>
      obtain ⟨first, rest, decimal, digit, -⟩ := exists_decimal_eq number
      refine ⟨first, rest, ?_, ?_, ne_of_isDigit digit rfl⟩
      · rw [ofNat, compactChars, decimal]
      · simp [isBlank, ne_of_isDigit digit]
  | text text => exact ⟨_, _, rfl, rfl, by decide⟩
  | @array items plain => cases items <;> exact ⟨_, _, rfl, rfl, by decide⟩
  | @members members plain => cases members <;> exact ⟨_, _, rfl, rfl, by decide⟩

private theorem readValue_scalar {first : Char} {text : List Char} (fuel : Nat)
    (visible : isBlank first = false) (noText : first ≠ '"') (noArray : first ≠ '[')
    (noObject : first ≠ '{') :
    readValue (fuel + 1) (first :: text) = readScalar (first :: text) := by
  rw [readValue, skipBlanks_cons visible]
  split
  · next same => exact absurd (List.cons.inj same).1 noText
  · next same => exact absurd (List.cons.inj same).1 noArray
  · next same => exact absurd (List.cons.inj same).1 noObject
  · rfl

private theorem reads_null : Reads .null := by
  intro fuel rest enough closes
  cases fuel with
  | zero => omega
  | succ fuel => exact readValue_scalar fuel rfl (by decide) (by decide) (by decide)

private theorem reads_bool (value : Bool) : Reads (.bool value) := by
  intro fuel rest enough closes
  cases fuel with
  | zero => omega
  | succ fuel =>
      cases value <;> exact readValue_scalar fuel rfl (by decide) (by decide) (by decide)

private theorem reads_natural (number : Nat) : Reads (.ofNat number) := by
  intro fuel rest enough closes
  cases fuel with
  | zero => omega
  | succ fuel =>
      have scalar := readScalar_decimal number closes
      obtain ⟨first, more, decimal, digit, -⟩ := exists_decimal_eq number
      have visible : isBlank first = false := by simp [isBlank, ne_of_isDigit digit]
      have written : (ofNat number).compactChars = first :: more := by
        rw [ofNat, compactChars, decimal]
      rw [decimal] at scalar
      rw [written, ← scalar]
      exact readValue_scalar fuel visible (ne_of_isDigit digit rfl) (ne_of_isDigit digit rfl)
        (ne_of_isDigit digit rfl)

private theorem reads_text (text : String) : Reads (.ofString text) := by
  intro fuel rest enough closes
  have written : (ofString text).compactChars ++ rest =
      '"' :: (text.toList.flatMap escaped ++ '"' :: rest) := by
    simp [ofString, compactChars, textChars, quoted]
  cases fuel with
  | zero => omega
  | succ fuel =>
      rw [written, readValue, skipBlanks_cons rfl]
      simp only [readText_quoted, Option.map_some, ofString]

/-- The items of an array are read if each of them is. -/
theorem readItems_compactItems {first : Json} {others : List Json}
    (reads : ∀ item ∈ first :: others, Reads item) (rest : List Char) {fuel : Nat}
    (enough : 2 * (first.compactChars ++ compactItems others).length ≤ fuel) :
    readItems fuel (first.compactChars ++ (compactItems others ++ rest)) =
      some (first :: others, rest) := by
  rw [List.length_append] at enough
  induction others generalizing first fuel with
  | nil =>
      cases fuel with
      | zero => simp [compactItems] at enough
      | succ fuel =>
          have bound : 2 * first.compactChars.length < fuel := by
            simp [compactItems] at enough
            omega
          rw [readItems, reads first List.mem_cons_self fuel _ bound (closes_compactItems [] rest)]
          rfl
  | cons next others ih =>
      cases fuel with
      | zero => simp [compactItems] at enough
      | succ fuel =>
          simp only [compactItems, List.length_cons, List.length_append] at enough
          have bound : 2 * (next.compactChars.length + (compactItems others).length) ≤ fuel := by
            omega
          have later := ih (fun item member => reads item (List.mem_cons_of_mem _ member)) bound
          rw [readItems, reads first List.mem_cons_self fuel _ (by omega)
            (closes_compactItems _ rest)]
          simp only [Option.bind_eq_bind, Option.bind_some, compactItems, List.cons_append]
          rw [skipBlanks_cons rfl]
          simp only [List.append_assoc, later]
          rfl

/-- Members whose names have a text. -/
abbrev named (members : List (String × Json)) : List (Json.Text × Json) :=
  members.map fun (name, value) => (some name, value)

/-- A member as it is written, without what separates it from others. -/
def memberChars (member : String × Json) : List Char :=
  '"' :: (member.1.toList.flatMap escaped ++ '"' :: ':' :: member.2.compactChars)

private theorem compactChars_array (first : Json) (others : List Json) :
    (array (first :: others)).compactChars = '[' :: (first.compactChars ++ compactItems others) := by
  rw [compactChars, List.cons_append]

private theorem compactMembers_cons (member : String × Json) (others : List (String × Json)) :
    compactMembers (named (member :: others)) =
      ',' :: (memberChars member ++ compactMembers (named others)) := by
  simp [named, compactMembers, memberChars, textChars, quoted]

/-- An object is written member by member. -/
theorem compactChars_ofMembers (member : String × Json) (others : List (String × Json)) :
    (ofMembers (member :: others)).compactChars =
      '{' :: (memberChars member ++ compactMembers (named others)) := by
  simp [ofMembers, compactChars, memberChars, textChars, quoted]

private theorem length_memberChars (member : String × Json) :
    member.2.compactChars.length < (memberChars member).length := by
  simp only [memberChars, List.length_cons, List.length_append]
  omega

/-- The name and the colon of a member are read, and then its value. -/
theorem readMembers_memberChars {member : String × Json} {text : List Char} {fuel : Nat}
    (read : readValue fuel (member.2.compactChars ++ text) = some (member.2, text)) :
    readMembers (fuel + 1) (memberChars member ++ text) =
      match skipBlanks text with
      | '}' :: rest => some ([(some member.1, member.2)], rest)
      | ',' :: rest => do
        let (members, rest) ← readMembers fuel rest
        return ((some member.1, member.2) :: members, rest)
      | _ => none := by
  rw [memberChars, List.cons_append, readMembers, skipBlanks_cons rfl]
  simp only [List.append_assoc, List.cons_append, readText_quoted, Option.bind_eq_bind,
    Option.bind_some]
  rw [skipBlanks_cons rfl]
  simp only [read, Option.bind_some]
  rfl

/-- The members of an object are read if the value of each of them is. -/
theorem readMembers_compactMembers {first : String × Json} {others : List (String × Json)}
    (reads : ∀ member ∈ first :: others, Reads member.2) (rest : List Char) {fuel : Nat}
    (enough : 2 * (memberChars first ++ compactMembers (named others)).length ≤ fuel) :
    readMembers fuel (memberChars first ++ (compactMembers (named others) ++ rest)) =
      some (named (first :: others), rest) := by
  rw [List.length_append] at enough
  have shorter := length_memberChars first
  induction others generalizing first fuel with
  | nil =>
      cases fuel with
      | zero => omega
      | succ fuel =>
          rw [readMembers_memberChars (reads first List.mem_cons_self fuel _ (by omega)
            (closes_compactMembers _ rest))]
          rfl
  | cons next others ih =>
      cases fuel with
      | zero => omega
      | succ fuel =>
          simp only [compactMembers_cons, List.length_cons, List.length_append] at enough
          have bound : 2 * ((memberChars next).length + (compactMembers (named others)).length) ≤
              fuel := by
            omega
          have later := ih (fun member mem => reads member (List.mem_cons_of_mem _ mem)) bound
            (length_memberChars next)
          rw [readMembers_memberChars (reads first List.mem_cons_self fuel _ (by omega)
            (closes_compactMembers _ rest)), compactMembers_cons, List.cons_append,
            skipBlanks_cons rfl]
          simp only [List.append_assoc, later]
          rfl

private theorem readValue_array {c : Char} (visible : isBlank c = false) (opens : c ≠ ']')
    (text : List Char) (fuel : Nat) :
    readValue (fuel + 1) ('[' :: c :: text) =
      (readItems fuel (c :: text)).map fun (items, rest) => (.array items, rest) := by
  rw [readValue, skipBlanks_cons rfl]
  simp only
  rw [skipBlanks_cons visible]
  split
  · next same => exact absurd (List.cons.inj same).1 opens
  · rfl

private theorem readValue_object (text : List Char) (fuel : Nat) :
    readValue (fuel + 1) ('{' :: '"' :: text) =
      (readMembers fuel ('"' :: text)).map fun (members, rest) => (.object members, rest) := by
  rw [readValue, skipBlanks_cons rfl]
  simp only
  rw [skipBlanks_cons rfl]
  rfl

/-- Values that are written on one line are read again. -/
theorem Plain.reads {value : Json} (plain : Plain value) : Reads value := by
  induction plain with
  | null => exact reads_null
  | bool value => exact reads_bool value
  | natural number => exact reads_natural number
  | text text => exact reads_text text
  | @array items plain reads =>
      intro fuel rest enough closes
      cases fuel with
      | zero => omega
      | succ fuel =>
      cases items with
      | nil => rfl
      | cons first others =>
          rw [compactChars_array, List.length_cons] at enough
          have bound : 2 * (first.compactChars ++ compactItems others).length ≤ fuel := by omega
          have items := readItems_compactItems reads rest bound
          obtain ⟨c, more, starts, visible, opens⟩ :=
            compactChars_starts (plain first List.mem_cons_self)
          rw [starts, List.cons_append] at items
          rw [compactChars_array, List.cons_append, List.append_assoc, starts, List.cons_append,
            readValue_array visible opens, items]
          rfl
  | @members members plain reads =>
      intro fuel rest enough closes
      cases fuel with
      | zero => omega
      | succ fuel =>
      cases members with
      | nil => rfl
      | cons first others =>
          rw [compactChars_ofMembers, List.length_cons] at enough
          have bound : 2 * (memberChars first ++ compactMembers (named others)).length ≤ fuel := by
            omega
          have members := readMembers_compactMembers reads rest bound
          rw [compactChars_ofMembers, List.cons_append, List.append_assoc]
          rw [memberChars, List.cons_append] at members ⊢
          rw [readValue_object, members]
          rfl

/-- **What is written is read.** -/
theorem ofText?_compact {value : Json} (plain : Plain value) :
    ofText? value.compact = some value := by
  have read := plain.reads (2 * value.compactChars.length + 2) [] (by omega) (fun _ => nofun)
  rw [List.append_nil] at read
  simp only [ofText?, compact, String.toList_ofList, read, Option.bind_eq_bind, Option.bind_some]
  rfl

/-! ### Characters -/

private theorem code_of_all {text : List Char} (all : text.all (32 ≤ ·.toNat) = true) :
    ∀ c ∈ text, 32 ≤ c.toNat := fun c member =>
  of_decide_eq_true (List.all_eq_true.mp all c member)

private theorem code_escaped {c d : Char} (member : d ∈ escaped c) : 32 ≤ d.toNat := by
  unfold escaped at member
  split at member
  · next letter short =>
    have stands : 32 ≤ letter.toNat := by
      unfold shortEscape? at short
      split at short <;> cases short <;> decide
    simp only [List.mem_cons, List.not_mem_nil, or_false] at member
    rcases member with rfl | rfl
    · decide
    · exact stands
  · split at member
    · have digit {code : Nat} (small : code < 16) : 32 ≤ code.digitChar.toNat := by
        revert code
        decide
      simp only [List.mem_cons, List.not_mem_nil, or_false] at member
      rcases member with rfl | rfl | rfl | rfl | rfl | rfl
      · decide
      · decide
      · decide
      · decide
      · exact digit (by omega)
      · exact digit (by omega)
    · next visible =>
      rw [List.mem_singleton.mp member]
      exact Nat.not_lt.mp visible

private theorem code_quoted {text : String} {c : Char} (member : c ∈ quoted text) :
    32 ≤ c.toNat := by
  simp only [quoted, List.mem_cons, List.mem_append, List.mem_flatMap, List.not_mem_nil, or_false] at member
  rcases member with (rfl | ⟨_, _, escaped⟩) | rfl
  · decide
  · exact code_escaped escaped
  · decide

private theorem code_compactItems {items : List Json}
    (codes : ∀ item ∈ items, ∀ c ∈ item.compactChars, 32 ≤ c.toNat) :
    ∀ c ∈ compactItems items, 32 ≤ c.toNat := by
  induction items with
  | nil => exact code_of_all rfl
  | cons item rest ih =>
      intro c member
      have later := ih fun item member => codes item (List.mem_cons_of_mem _ member)
      rw [compactItems, List.cons_append, List.mem_cons, List.mem_append] at member
      rcases member with rfl | here | there
      · decide
      · exact codes item List.mem_cons_self c here
      · exact later c there

private theorem code_memberChars {member : String × Json}
    (codes : ∀ c ∈ member.2.compactChars, 32 ≤ c.toNat) :
    ∀ c ∈ memberChars member, 32 ≤ c.toNat := by
  intro c found
  have split : memberChars member = quoted member.1 ++ ':' :: member.2.compactChars := by
    simp [memberChars, quoted]
  rw [split, List.mem_append, List.mem_cons] at found
  rcases found with name | rfl | value
  · exact code_quoted name
  · decide
  · exact codes c value

private theorem code_compactMembers {members : List (String × Json)}
    (codes : ∀ member ∈ members, ∀ c ∈ member.2.compactChars, 32 ≤ c.toNat) :
    ∀ c ∈ compactMembers (named members), 32 ≤ c.toNat := by
  induction members with
  | nil => exact code_of_all rfl
  | cons member rest ih =>
      intro c found
      have later := ih fun member mem => codes member (List.mem_cons_of_mem _ mem)
      rw [compactMembers_cons, List.mem_cons, List.mem_append] at found
      rcases found with rfl | here | there
      · decide
      · exact code_memberChars (codes member List.mem_cons_self) c here
      · exact later c there

/-- Nothing that is written on one line holds a control character. -/
theorem Plain.code_compactChars {value : Json} (plain : Plain value) :
    ∀ c ∈ value.compactChars, 32 ≤ c.toNat := by
  induction plain with
  | null => exact code_of_all rfl
  | bool value => cases value <;> exact code_of_all rfl
  | natural number =>
      intro c member
      have digit : c.isDigit = true := isDigit_of_mem_decimal member
      rw [Char.isDigit, Bool.and_eq_true, decide_eq_true_eq] at digit
      exact Nat.le_trans (by decide) digit.1
  | text text => exact fun c => code_quoted
  | @array items _ codes =>
      cases items with
      | nil => exact code_of_all rfl
      | cons first others =>
          intro c member
          rw [compactChars_array, List.mem_cons, List.mem_append] at member
          rcases member with rfl | here | there
          · decide
          · exact codes first List.mem_cons_self c here
          · exact code_compactItems (fun item mem => codes item (List.mem_cons_of_mem _ mem)) c there
  | @members members _ codes =>
      cases members with
      | nil => exact code_of_all rfl
      | cons first others =>
          intro c member
          rw [compactChars_ofMembers, List.mem_cons, List.mem_append] at member
          rcases member with rfl | here | there
          · decide
          · exact code_memberChars (codes first List.mem_cons_self) c here
          · exact code_compactMembers (fun item mem => codes item (List.mem_cons_of_mem _ mem)) c there

end Json

end HintFuzz
