import HintFuzz.Proofs.Hint.Sites
import HintFuzz.Proofs.Text.Utf8
import Mathlib.Data.List.Basic

/-!
# The code of a line, byte by byte

Spans count bytes.  Here the code of a line is the list of its bytes, each marked as the
character that it belongs to (`Line.octets`).  A byte below 128 is a character of its own, so
what stands at a byte, before it and behind it can be told from the characters around its site
(`Line.byte?_eq_iff`, `Line.byteBack?_one_eq_iff`), and so can the depth of the brackets
(`Line.depthAt_eq`).
-/

namespace HintFuzz.Hint

/-! ### Characters of one byte -/

section Ascii

variable {c d : Char}

private theorem toNat_toUInt8 (ascii : c.toNat < 128) : c.toUInt8.toNat = c.toNat := by
  change c.val.toNat % 256 = c.val.toNat
  exact Nat.mod_eq_of_lt (Nat.lt_trans ascii (by decide))

private theorem utf8EncodeChar_of_ascii (ascii : c.toNat < 128) :
    String.utf8EncodeChar c = [c.toUInt8] := by
  refine String.utf8EncodeChar_eq_singleton ?_
  rw [Char.utf8Size_eq_one_iff, UInt32.le_iff_toNat_le]
  exact Nat.le_of_lt_succ ascii

/-- A byte below 128 belongs to no other character. -/
theorem toUInt8_mem_utf8EncodeChar_iff (ascii : c.toNat < 128) :
    c.toUInt8 ∈ String.utf8EncodeChar d ↔ d = c := by
  constructor
  · intro member
    have low : c.toUInt8.toNat < 128 := (toNat_toUInt8 ascii).symm ▸ ascii
    have same := Text.toNat_eq_of_mem_utf8EncodeChar member low
    rw [toNat_toUInt8 ascii] at same
    exact Char.toNat_inj.mp same.symm
  · rintro rfl
    rw [utf8EncodeChar_of_ascii ascii]
    exact List.mem_singleton_self _

end Ascii

/-! ### Bytes of code -/

/-- A byte of a line's code, marked. -/
structure Octet where
  byte : UInt8
  lexeme : Lexeme
deriving DecidableEq, Repr

/-- The bytes of a character, marked as it is. -/
def Cell.octets (cell : Cell) : List Octet :=
  (String.utf8EncodeChar cell.char).map (⟨·, cell.lexeme⟩)

/-- The bytes of a stretch of code. -/
def octets (code : List Cell) : List Octet :=
  code.flatMap Cell.octets

/-- The bytes of the code of a line. -/
def Line.octets (line : Line) : List Octet :=
  Hint.octets line.cells

/-- The byte at a position. -/
def Line.byte? (line : Line) (position : Nat) : Option UInt8 :=
  line.octets[position]?.map Octet.byte

/-- The byte some places before a position. -/
def Line.byteBack? (line : Line) (position places : Nat) : Option UInt8 :=
  if places ≤ position then line.byte? (position - places) else none

/-- The bracket depth after a byte. -/
def depthAfterOctet (depth : Nat) (octet : Octet) : Nat :=
  if octet.lexeme ≠ .code then depth
  else if octet.byte ∈ "([\x7b".toList.map Char.toUInt8 then depth + 1
  else if octet.byte ∈ ")]\x7d".toList.map Char.toUInt8 then depth - 1
  else depth

/-- The bracket depth before the byte at a position. -/
def Line.depthAt (line : Line) (position : Nat) : Nat :=
  (line.octets.take position).foldl depthAfterOctet line.depth

section Octets

variable {c : Char} {cell : Cell} {line : Line} {passed earlier after code : List Cell}

private theorem octets_cons (cell : Cell) (rest : List Cell) :
    octets (cell :: rest) = cell.octets ++ octets rest :=
  List.flatMap_cons

/-- The octets of code stand one behind the other. -/
theorem octets_append (left right : List Cell) :
    octets (left ++ right) = octets left ++ octets right :=
  List.flatMap_append

/-- A cell has as many octets as its character has bytes. -/
theorem Cell.length_octets (cell : Cell) : cell.octets.length = cell.char.utf8Size := by
  rw [Cell.octets, List.length_map, String.length_utf8EncodeChar]

/-- Code has as many octets as it has bytes. -/
theorem length_octets (code : List Cell) : (octets code).length = size code := by
  induction code with
  | nil => rfl
  | cons cell rest ih => rw [octets_cons, List.length_append, cell.length_octets, ih, size_cons]

private theorem Cell.octets_of_ascii (ascii : cell.char.toNat < 128) :
    cell.octets = [⟨cell.char.toUInt8, cell.lexeme⟩] := by
  rw [Cell.octets, utf8EncodeChar_of_ascii ascii, List.map_singleton]

/-- The marked bytes are those of the code as a text. -/
theorem Line.map_byte_octets (line : Line) :
    line.octets.map Octet.byte = Text.bytes line.code := by
  have each (cell : Cell) : cell.octets.map Octet.byte = String.utf8EncodeChar cell.char := by
    rw [Cell.octets, List.map_map]
    exact List.map_id' _
  rw [Text.bytes_eq_flatMap, Line.code, String.toList_ofList, List.flatMap_map, Line.octets,
    Hint.octets, List.map_flatMap]
  simp only [each]

/-! ### Positions -/

/-- A character of one byte stands where its byte does. -/
theorem getElem?_octets (ascii : cell.char.toNat < 128) :
    (octets (passed ++ cell :: after))[size passed]? = some ⟨cell.char.toUInt8, cell.lexeme⟩ := by
  rw [octets_append, octets_cons, Cell.octets_of_ascii ascii, ← length_octets]
  rw [List.getElem?_append_right (Nat.le_refl _), Nat.sub_self]
  rfl

/-- An octet of an ASCII character is the whole of a cell. -/
theorem exists_of_getElem?_octets (ascii : c.toNat < 128) {lexeme : Lexeme} {position : Nat}
    (found : (octets code)[position]? = some ⟨c.toUInt8, lexeme⟩) :
    ∃ passed after, code = passed ++ ⟨c, lexeme⟩ :: after ∧ position = size passed := by
  induction code generalizing position with
  | nil => cases found
  | cons cell rest ih =>
      rw [octets_cons] at found
      by_cases here : position < cell.octets.length
      · rw [List.getElem?_append_left here] at found
        obtain ⟨byte, member, same⟩ := List.mem_map.mp (List.mem_of_getElem? found)
        cases same
        have same := (toUInt8_mem_utf8EncodeChar_iff ascii).mp member
        subst same
        rw [Cell.octets_of_ascii ascii, List.length_singleton, Nat.lt_one_iff] at here
        exact ⟨[], rest, rfl, here⟩
      · have behind := Nat.le_of_not_lt here
        rw [List.getElem?_append_right behind] at found
        obtain ⟨passed, after, rfl, placed⟩ := ih found
        refine ⟨cell :: passed, after, rfl, ?_⟩
        rw [cell.length_octets] at placed behind
        rw [size_cons, ← placed, Nat.add_sub_cancel' behind]

/-- A byte below 128 is the only one of its character. -/
theorem Cell.char_eq_of_mem_octets (ascii : c.toNat < 128) {octet : Octet}
    (member : octet ∈ cell.octets) (same : octet.byte = c.toUInt8) : cell.char = c := by
  obtain ⟨byte, encoded, rfl⟩ := List.mem_map.mp member
  exact (toUInt8_mem_utf8EncodeChar_iff ascii).mp (same ▸ encoded)

private theorem Cell.octets_ne_nil (cell : Cell) : cell.octets ≠ [] :=
  List.ne_nil_of_length_pos (cell.length_octets ▸ cell.char.utf8Size_pos)

/-- The byte behind a stretch tells an ASCII character there. -/
theorem Line.byte?_eq_iff (split : line.cells = passed ++ after) (ascii : c.toNat < 128) :
    line.byte? (size passed) = some c.toUInt8 ↔ after.head?.map Cell.char = some c := by
  have here : line.octets[size passed]? = (Hint.octets after).head? := by
    rw [Line.octets, split, octets_append, ← length_octets, List.getElem?_append_right (Nat.le_refl _),
      Nat.sub_self, List.head?_eq_getElem?]
  rw [Line.byte?, here]
  cases after with
  | nil => exact iff_of_false nofun nofun
  | cons cell rest =>
      rw [octets_cons, List.head?_append_of_ne_nil _ cell.octets_ne_nil, List.head?_cons,
        Option.map_some, Option.some_inj, Option.map_eq_some_iff]
      constructor
      · rintro ⟨octet, first, same⟩
        exact Cell.char_eq_of_mem_octets ascii (List.mem_of_head? first) same
      · rintro rfl
        exact ⟨_, by rw [Cell.octets_of_ascii ascii, List.head?_cons], rfl⟩

/-- The byte before a position tells an ASCII character there. -/
theorem Line.byteBack?_one_eq_iff (split : line.cells = passed ++ after) (ascii : c.toNat < 128) :
    line.byteBack? (size passed) 1 = some c.toUInt8 ↔ passed.getLast?.map Cell.char = some c := by
  rcases List.eq_nil_or_concat' passed with rfl | ⟨earlier, cell, rfl⟩
  · exact iff_of_false nofun nofun
  have positive : 1 ≤ size (earlier ++ [cell]) := by
    have width := cell.char.utf8Size_pos
    rw [size_append, size_cons]
    omega
  have here : line.octets[size (earlier ++ [cell]) - 1]? =
      (Hint.octets (earlier ++ [cell])).getLast? := by
    rw [List.getLast?_eq_getElem?, Line.octets, split, octets_append, length_octets]
    refine List.getElem?_append_left ?_
    rw [length_octets]
    omega
  rw [Line.byteBack?, if_pos positive, Line.byte?, here, octets_append, octets_cons,
    List.getLast?_append_of_ne_nil _ (List.append_ne_nil_of_left_ne_nil cell.octets_ne_nil _),
    List.getLast?_concat, Option.map_some, Option.some_inj, Option.map_eq_some_iff]
  constructor
  · rintro ⟨octet, last, same⟩
    have member := List.mem_of_getLast? last
    rw [Hint.octets, List.flatMap_nil, List.append_nil] at member
    exact Cell.char_eq_of_mem_octets ascii member same
  · rintro rfl
    refine ⟨⟨cell.char.toUInt8, cell.lexeme⟩, ?_, rfl⟩
    rw [Cell.octets_of_ascii ascii]
    rfl

/-- So does the byte before a character of one byte. -/
theorem Line.byteBack?_two_eq_iff (split : line.cells = earlier ++ cell :: after)
    (single : cell.char.toNat < 128) (ascii : c.toNat < 128) :
    line.byteBack? (size (earlier ++ [cell])) 2 = some c.toUInt8 ↔
      earlier.getLast?.map Cell.char = some c := by
  have width : size (earlier ++ [cell]) = size earlier + 1 := by
    rw [size_append, ← length_octets [cell], octets_cons, Cell.octets_of_ascii single]
    rfl
  rw [← Line.byteBack?_one_eq_iff split ascii, width]
  have inside : 2 ≤ size earlier + 1 ↔ 1 ≤ size earlier := by omega
  have same : size earlier + 1 - 2 = size earlier - 1 := by omega
  simp only [byteBack?, inside, same]

/-! ### Depth -/

/-- The bytes of a character are among those of ASCII characters if it is one of them. -/
theorem Cell.byte_mem_map_iff (word : List Char) (ascii : ∀ c ∈ word, c.toNat < 128)
    {octet : Octet} (member : octet ∈ cell.octets) :
    octet.byte ∈ word.map Char.toUInt8 ↔ cell.char ∈ word := by
  rw [List.mem_map]
  constructor
  · rintro ⟨c, listed, same⟩
    exact Cell.char_eq_of_mem_octets (ascii c listed) member same.symm ▸ listed
  · intro listed
    rw [Cell.octets_of_ascii (ascii _ listed), List.mem_singleton] at member
    exact ⟨_, listed, (congrArg Octet.byte member).symm⟩

private theorem depthAfter_eq (depth : Nat) (cell : Cell) : depthAfter depth cell =
    if cell.lexeme ≠ .code then depth
    else if cell.char ∈ "([\x7b".toList then depth + 1
    else if cell.char ∈ ")]\x7d".toList then depth - 1
    else depth := by
  unfold depthAfter
  split
  · rfl
  · split <;> simp_all

private theorem Cell.depthAfterOctet_eq (depth : Nat) {octet : Octet}
    (member : octet ∈ cell.octets) :
    depthAfterOctet depth octet = depthAfter depth cell := by
  have lexeme : octet.lexeme = cell.lexeme := by
    obtain ⟨byte, -, rfl⟩ := List.mem_map.mp member
    rfl
  have opens := Cell.byte_mem_map_iff "([\x7b".toList (by simp) member
  have closes := Cell.byte_mem_map_iff ")]\x7d".toList (by simp) member
  simp only [depthAfterOctet, depthAfter_eq, lexeme, opens, closes]

private theorem Cell.foldl_depthAfterOctet (depth : Nat) (cell : Cell) :
    cell.octets.foldl depthAfterOctet depth = depthAfter depth cell := by
  by_cases ascii : cell.char.toNat < 128
  · rw [Cell.octets_of_ascii ascii, List.foldl_cons, List.foldl_nil]
    refine Cell.depthAfterOctet_eq depth ?_
    rw [Cell.octets_of_ascii ascii]
    exact List.mem_singleton_self _
  · -- No bracket has more than one byte.
    have still (depth : Nat) : depthAfter depth cell = depth := by
      have other {word : List Char} (asciis : ∀ c ∈ word, c.toNat < 128) : cell.char ∉ word :=
        fun listed => ascii (asciis _ listed)
      rw [depthAfter_eq, if_neg (other (by simp)), if_neg (other (by simp)), ite_self]
    rw [still, List.foldl_ext _ (fun depth _ => depth) depth fun depth octet member =>
      (Cell.depthAfterOctet_eq depth member).trans (still depth)]
    exact List.foldl_fixed _

/-- The bytes of a stretch leave the brackets open that its characters do. -/
theorem Line.depthAt_eq (split : line.cells = passed ++ after) :
    line.depthAt (size passed) = passed.foldl depthAfter line.depth := by
  have taken : line.octets.take (size passed) = Hint.octets passed := by
    rw [Line.octets, split, octets_append, ← length_octets, List.take_left]
  rw [Line.depthAt, taken, Hint.octets, List.foldl_flatMap]
  simp only [Cell.foldl_depthAfterOctet]

end Octets

end HintFuzz.Hint
