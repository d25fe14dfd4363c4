import HintFuzz.Text.Utf8
import Mathlib.Data.List.Infix

/-!
# Texts as bytes

The bytes of a text are those of its characters, one after another
(`bytes_eq_flatMap`), and give the text back (`ofBytes?_bytes`).  Bytes below 128 stand
for characters of their own, so only control characters have the bytes of line ends
(`code_le_of_mem_bytes`).

The width of a text is the number of its bytes (`Text.utf8ByteSize_eq_width`).  What is kept of a
text that is cut to some room is a front of it that fits (`Text.frontWithin_prefix`,
`Text.width_frontWithin_le`), and has every other such front in it
(`Text.prefix_frontWithin`).  It ends at the last place up to all the room at which the text can be
cut (`Text.lastCut?_eq_width`), less than four bytes below (`Text.lt_width_frontWithin`).
-/

namespace HintFuzz.Text

private theorem loop_eq (octets : ByteArray) (index : Nat) (found : List UInt8) :
    ByteArray.toList.loop octets index found =
      found.reverse ++ octets.data.toList.drop index := by
  induction index, found using ByteArray.toList.loop.induct octets with
  | case1 index found inside ih =>
      have bound : index < octets.data.toList.length := by simpa using inside
      have here : octets.get! index = octets.data.toList[index] := by
        simp only [ByteArray.get!, Array.getElem_toList]
        exact getElem!_pos octets.data index (by simpa using inside)
      rw [ByteArray.toList.loop, if_pos inside, ih, List.drop_eq_getElem_cons bound, here]
      simp
  | case2 index found outside =>
      have bound : octets.data.toList.length ≤ index := by simpa using outside
      rw [ByteArray.toList.loop, if_neg outside, List.drop_eq_nil_of_le bound, List.append_nil]

private theorem toList_eq_data (octets : ByteArray) : octets.toList = octets.data.toList := by
  rw [ByteArray.toList, loop_eq]
  simp

/-- A text is encoded character by character. -/
theorem bytes_eq_flatMap (text : String) :
    bytes text = text.toList.flatMap String.utf8EncodeChar := by
  rw [bytes, toList_eq_data, String.toUTF8_eq_toByteArray, ← String.utf8Encode_toList]
  exact List.toList_data_toByteArray

/-- Texts are encoded one behind the other. -/
theorem bytes_append (left right : String) : bytes (left ++ right) = bytes left ++ bytes right := by
  simp only [bytes_eq_flatMap, String.toList_append, List.flatMap_append]

/-- An encoded text is decoded again. -/
theorem ofBytes?_bytes (text : String) : ofBytes? (bytes text) = some text := by
  have same : ByteArray.mk (bytes text).toArray = text.toByteArray := by
    rw [bytes, toList_eq_data]; rfl
  rw [ofBytes?, same, String.fromUTF8?, dif_pos text.isValidUTF8]
  rfl

/-- A low octet is the number of its character. -/
theorem toNat_eq_of_mem_utf8EncodeChar {c : Char} {octet : UInt8}
    (member : octet ∈ String.utf8EncodeChar c) (low : octet.toNat < 128) :
    octet.toNat = c.toNat := by
  have code : c.val.toNat = c.toNat := rfl
  unfold String.utf8EncodeChar at member
  simp only at member
  split at member
  · next ascii =>
    rw [List.mem_singleton] at member
    rw [member, UInt8.toNat_ofNat']
    omega
  · -- Every other byte has its highest bit set.
    split at member
    · simp only [List.mem_cons, List.not_mem_nil, or_false] at member
      rcases member with rfl | rfl <;> rw [UInt8.toNat_ofNat'] at low <;> omega
    · split at member
      · simp only [List.mem_cons, List.not_mem_nil, or_false] at member
        rcases member with rfl | rfl | rfl <;> rw [UInt8.toNat_ofNat'] at low <;> omega
      · simp only [List.mem_cons, List.not_mem_nil, or_false] at member
        rcases member with rfl | rfl | rfl | rfl <;> rw [UInt8.toNat_ofNat'] at low <;> omega

/-- A text has as many bytes as its size says. -/
theorem length_bytes (text : String) : (bytes text).length = text.utf8ByteSize := by
  rw [bytes, toList_eq_data]
  exact Array.length_toList

/-- If no character of a text is below a code, then no byte of it is. -/
theorem code_le_of_mem_bytes {least : Nat} (ascii : least ≤ 128) {text : String}
    (codes : ∀ c ∈ text.toList, least ≤ c.toNat) : ∀ octet ∈ bytes text, least ≤ octet.toNat := by
  intro octet member
  rw [bytes_eq_flatMap, List.mem_flatMap] at member
  obtain ⟨c, character, part⟩ := member
  by_cases low : octet.toNat < 128
  · rw [toNat_eq_of_mem_utf8EncodeChar part low]
    exact codes c character
  · omega

/-! ### Widths -/

/-- Widths are counted character by character. -/
theorem width_cons (c : Char) (rest : List Char) : width (c :: rest) = c.utf8Size + width rest :=
  rfl

/-- The widths of two texts add up. -/
theorem width_append (left right : List Char) :
    width (left ++ right) = width left + width right := by
  induction left with
  | nil => exact (Nat.zero_add _).symm
  | cons c left ih => rw [List.cons_append, width_cons, width_cons, ih, Nat.add_assoc]

/-- Every character has a width. -/
theorem length_le_width (text : List Char) : text.length ≤ width text := by
  induction text with
  | nil => exact Nat.zero_le _
  | cons c rest ih =>
      have positive := c.utf8Size_pos
      rw [List.length_cons, width_cons]
      omega

/-- Only the empty text has no width. -/
theorem eq_nil_of_width_eq_zero {text : List Char} (none : width text = 0) : text = [] := by
  have bound := length_le_width text
  exact List.eq_nil_of_length_eq_zero (by omega)

/-- The size of a text in bytes is its width. -/
theorem utf8ByteSize_ofList (text : List Char) : (String.ofList text).utf8ByteSize = width text := by
  induction text with
  | nil => rfl
  | cons c rest ih =>
      have first : (String.ofList [c]).utf8ByteSize = c.utf8Size := by
        rw [← String.singleton_eq_ofList, String.utf8ByteSize_singleton]
      rw [← List.singleton_append, String.ofList_append, String.utf8ByteSize_append, first, ih]
      rfl

/-- The width of a text is its size in bytes. -/
theorem utf8ByteSize_eq_width (text : String) : text.utf8ByteSize = width text.toList := by
  rw [← utf8ByteSize_ofList, String.ofList_toList]

/-- Of two fronts of a text the narrower one is a front of the other. -/
theorem prefix_of_width_le {text left right : List Char} (leftPrefix : left <+: text)
    (rightPrefix : right <+: text) (narrower : width left ≤ width right) : left <+: right := by
  rcases List.prefix_or_prefix_of_prefix leftPrefix rightPrefix with front | ⟨more, rfl⟩
  · exact front
  · rw [width_append] at narrower
    rw [eq_nil_of_width_eq_zero (by omega : width more = 0), List.append_nil]

/-! ### Fronts that fit -/

variable {text kept : List Char} {room : Nat}

/-- What is kept within some room is a front. -/
theorem frontWithin_prefix (room : Nat) (text : List Char) : frontWithin room text <+: text := by
  induction text generalizing room with
  | nil => exact List.prefix_refl _
  | cons c rest ih =>
      rw [frontWithin]
      split
      · exact List.cons_prefix_cons.mpr ⟨rfl, ih _⟩
      · exact List.nil_prefix

/-- What is kept within some room fits. -/
theorem width_frontWithin_le (room : Nat) (text : List Char) : width (frontWithin room text) ≤ room := by
  induction text generalizing room with
  | nil => exact Nat.zero_le _
  | cons c rest ih =>
      rw [frontWithin]
      split
      · next fits =>
          have later := ih (room - c.utf8Size)
          rw [width_cons]
          omega
      · exact Nat.zero_le _

/-- No front that fits is longer than the one that is kept. -/
theorem prefix_frontWithin (front : kept <+: text) (fits : width kept ≤ room) :
    kept <+: frontWithin room text := by
  induction kept generalizing room text with
  | nil => exact List.nil_prefix
  | cons c kept ih =>
      cases text with
      | nil => cases List.prefix_nil.mp front
      | cons first rest =>
          obtain ⟨rfl, later⟩ := List.cons_prefix_cons.mp front
          rw [width_cons] at fits
          rw [frontWithin, if_pos (by omega)]
          exact List.cons_prefix_cons.mpr ⟨rfl, ih later (by omega)⟩

/-- With one more character the front does not fit, and no character takes more than four bytes. -/
theorem lt_width_frontWithin (long : room < width text) :
    room < width (frontWithin room text) + 4 := by
  obtain ⟨rest, split⟩ := frontWithin_prefix room text
  cases rest with
  | nil =>
      have fits := width_frontWithin_le room text
      rw [List.append_nil] at split
      rw [split] at fits
      omega
  | cons next rest =>
      have longer : frontWithin room text ++ [next] <+: text :=
        ⟨rest, by rw [List.append_assoc, List.singleton_append, split]⟩
      have wide : room < width (frontWithin room text ++ [next]) := by
        by_contra fits
        have bound := (prefix_frontWithin longer (Nat.le_of_not_lt fits)).length_le
        rw [List.length_append, List.length_singleton] at bound
        omega
      have small := next.utf8Size_le_four
      rw [width_append, width_cons] at wide
      exact Nat.lt_of_lt_of_le wide (Nat.add_le_add_left small _)

/-- Behind the front that is kept stands the rest. -/
theorem exists_eq_frontWithin_append (room : Nat) (text : String) :
    ∃ rest, text = String.ofList (frontWithin room text.toList) ++ rest := by
  obtain ⟨rest, split⟩ := frontWithin_prefix room text.toList
  refine ⟨String.ofList rest, ?_⟩
  rw [← String.ofList_append, split, String.ofList_toList]

/-- A front that fits is kept. -/
theorem exists_frontWithin_eq_append {front : String} (fits : front.utf8ByteSize ≤ room)
    (rest : String) :
    ∃ more, String.ofList (frontWithin room (front ++ rest).toList) = front ++ more := by
  have longest : front.toList <+: (front ++ rest).toList := by
    rw [String.toList_append]
    exact List.prefix_append _ _
  rw [utf8ByteSize_eq_width] at fits
  obtain ⟨more, split⟩ := prefix_frontWithin longest fits
  refine ⟨String.ofList more, ?_⟩
  rw [← split, String.ofList_append, String.ofList_toList]

/-! ### Places at which texts can be cut -/

/-- The last place up to a position of its bytes at which a text can be cut, looked for downwards:
none if the search would have to go on below zero. -/
def lastCut? (text : String) : Nat → Option Nat
  | 0 => if String.Pos.Raw.IsValid text ⟨0⟩ then some 0 else none
  | position + 1 =>
    if String.Pos.Raw.IsValid text ⟨position + 1⟩ then some (position + 1)
    else lastCut? text position

private theorem isValid_iff {text : String} {position : Nat} :
    String.Pos.Raw.IsValid text ⟨position⟩ ↔
    ∃ front rest, text = front ++ rest ∧ front.utf8ByteSize = position := by
  rw [String.Pos.Raw.isValid_iff_exists_append]
  refine exists₂_congr fun front rest => and_congr_right fun _ => ?_
  rw [String.Pos.Raw.ext_iff, String.byteIdx_rawEndPos, eq_comm]

/-- The search stops at the first place that it meets. -/
theorem lastCut?_eq_some {text : String} {position stop : Nat} (below : stop ≤ position)
    (valid : String.Pos.Raw.IsValid text ⟨stop⟩)
    (last : ∀ other, stop < other → other ≤ position → ¬String.Pos.Raw.IsValid text ⟨other⟩) :
    lastCut? text position = some stop := by
  induction position with
  | zero =>
      cases Nat.le_zero.mp below
      exact if_pos valid
  | succ position ih =>
      rcases Nat.le_succ_iff.mp below with earlier | rfl
      · have next := last (position + 1) (Nat.lt_succ_of_le earlier) (Nat.le_refl _)
        rw [lastCut?, if_neg next]
        exact ih earlier fun other behind before => last other behind (Nat.le_succ_of_le before)
      · exact if_pos valid

/-- The search from all that there is room for stops behind the longest front that fits. -/
theorem lastCut?_eq_width (text : String) (room : Nat) :
    lastCut? text room = some (width (frontWithin room text.toList)) := by
  refine lastCut?_eq_some (width_frontWithin_le _ _) (isValid_iff.mpr ?_) ?_
  · obtain ⟨rest, split⟩ := exists_eq_frontWithin_append room text
    exact ⟨_, rest, split, utf8ByteSize_ofList _⟩
  · intro other behind before valid
    obtain ⟨front, rest, rfl, rfl⟩ := isValid_iff.mp valid
    obtain ⟨more, split⟩ := exists_frontWithin_eq_append before rest
    have sizes := congrArg String.utf8ByteSize split
    rw [utf8ByteSize_ofList, String.utf8ByteSize_append] at sizes
    omega

/-- Three steps back from inside a character of four bytes. -/
example : lastCut? "a😀" 4 = some 1 := by
  decide +kernel

end HintFuzz.Text
