import HintFuzz.Felt
import Mathlib.Data.Nat.Digits.Lemmas

/-!
# Little-endian numbers and values

Writing a number in a given width keeps it up to the digits that do not fit
(`LittleEndian.toNat_ofNat`), and no number that is read needs more digits than there are bytes
(`LittleEndian.toNat_lt`).  Written in as many digits as it was read from, a number gives the
bytes back (`LittleEndian.ofNat_toNat`).  Eight bytes and a word of 64 bits are the same
(`LittleEndian.toNat_ofNat_word`, `LittleEndian.toNat_word`).

The bytes are the digits of the number with zeros behind them, as far as there is room
(`LittleEndian.map_toNat_ofNat`), and are read as digits (`LittleEndian.toNat_eq_ofDigits`).

A value is written in 32 digits, and nothing is reduced modulo the prime: what fits the bytes comes
back as it was, below the prime or not, and all bytes are written again as they were read
(`Felt.codecRule`).
-/

namespace HintFuzz

namespace LittleEndian

/-- A number is written in as many bytes as are asked for. -/
@[simp]
theorem length_ofNat (width n : Nat) : (ofNat width n).length = width := by
  induction width generalizing n with
  | zero => rfl
  | succ width ih => rw [ofNat, List.length_cons, ih]

/-- Digits that do not fit are cut off. -/
theorem toNat_ofNat (width n : Nat) : toNat (ofNat width n) = n % 256 ^ width := by
  induction width generalizing n with
  | zero => rw [ofNat, toNat, pow_zero, Nat.mod_one]
  | succ width ih =>
      have digit : (UInt8.ofNat n).toNat = n % 256 := UInt8.toNat_ofNat'
      rw [ofNat, toNat, ih, digit, pow_succ', Nat.mod_mul]

/-- A number has no more digits than there are bytes. -/
theorem toNat_lt (bytes : Bytes) : toNat bytes < 256 ^ bytes.length := by
  induction bytes with
  | nil => exact Nat.one_pos
  | cons digit rest ih =>
      have small : digit.toNat < 256 := digit.toNat_lt
      rw [toNat, List.length_cons, pow_succ']
      omega

/-- Bytes are the digits of the number that they write. -/
theorem ofNat_toNat {width : Nat} {bytes : Bytes} (length : bytes.length = width) :
    ofNat width (toNat bytes) = bytes := by
  induction bytes generalizing width with
  | nil => exact length ▸ rfl
  | cons digit rest ih =>
      have small : digit.toNat < 256 := digit.toNat_lt
      have lowest : UInt8.ofNat (digit.toNat + 256 * toNat rest) = digit := by
        apply UInt8.toNat_inj.mp
        rw [UInt8.toNat_ofNat']
        omega
      have higher : (digit.toNat + 256 * toNat rest) / 256 = toNat rest := by omega
      rw [← length, toNat, List.length_cons, ofNat, lowest, higher, ih rfl]

/-- As many digits of the same number are the same digits. -/
theorem eq_of_toNat_eq {bytes bytes' : Bytes} (length : bytes.length = bytes'.length)
    (same : toNat bytes = toNat bytes') : bytes = bytes' := by
  rw [← ofNat_toNat length, same, ofNat_toNat rfl]

/-! ### Words -/

/-- A word of eight bytes is read back. -/
theorem toNat_ofNat_word (word : UInt64) : toNat (ofNat 8 word.toNat) = word.toNat := by
  rw [toNat_ofNat]
  exact Nat.mod_eq_of_lt word.toNat_lt

/-- Eight bytes are the number of a word. -/
theorem toNat_word {bytes : Bytes} (length : bytes.length = 8) :
    (UInt64.ofNat (toNat bytes)).toNat = toNat bytes := by
  have bound := toNat_lt bytes
  rw [length] at bound
  exact UInt64.toNat_ofNat_of_lt' bound

/-- A word is determined by its eight bytes. -/
theorem eq_of_ofNat_word_eq {word word' : UInt64}
    (same : ofNat 8 word.toNat = ofNat 8 word'.toNat) : word = word' := by
  apply UInt64.toNat_inj.mp
  rw [← toNat_ofNat_word word, same, toNat_ofNat_word]

/-! ### Digits -/

/-- What is cut off does not change the digits below it. -/
theorem digit_mod {width place : Nat} (inside : place < width) (n : Nat) :
    n % 256 ^ width / 256 ^ place % 256 = n / 256 ^ place % 256 := by
  have split : 256 ^ width = 256 ^ place * 256 ^ (width - place) := by
    rw [← pow_add, Nat.add_sub_cancel' (Nat.le_of_lt inside)]
  have more : 256 ∣ 256 ^ (width - place) := dvd_pow_self 256 (Nat.sub_ne_zero_of_lt inside)
  rw [split, Nat.mod_mul_right_div_self, Nat.mod_mod_of_dvd _ more]

private theorem getElem?_ofNat {width place : Nat} (inside : place < width) (n : Nat) :
    (ofNat width n)[place]? = some (UInt8.ofNat (n / 256 ^ place)) := by
  induction width generalizing n place with
  | zero => exact absurd inside (Nat.not_lt_zero place)
  | succ width ih =>
      cases place with
      | zero => rw [ofNat, List.getElem?_cons_zero, pow_zero, Nat.div_one]
      | succ place =>
          rw [ofNat, List.getElem?_cons_succ, ih (Nat.lt_of_succ_lt_succ inside),
            Nat.div_div_eq_div_mul, pow_succ']

/-- The bytes are the digits of the number and zeros behind them, as many as there is room for. -/
theorem map_toNat_ofNat (width n : Nat) :
    (ofNat width n).map UInt8.toNat = (Nat.digits 256 n).takeD width 0 := by
  induction width generalizing n with
  | zero => rfl
  | succ width ih =>
      have digit : (UInt8.ofNat n).toNat = n % 256 := UInt8.toNat_ofNat'
      rw [ofNat, List.map_cons, ih, digit, List.takeD_succ]
      rcases Nat.eq_zero_or_pos n with rfl | positive
      · rfl
      · rw [Nat.digits_def' (by decide) positive]
        rfl

/-- Bytes are the digits of their number in base 256, the lowest first. -/
theorem toNat_eq_ofDigits (bytes : Bytes) :
    toNat bytes = Nat.ofDigits 256 (bytes.map UInt8.toNat) := by
  induction bytes with
  | nil => rfl
  | cons digit rest ih => rw [toNat, ih, List.map_cons, Nat.ofDigits_cons]

end LittleEndian

/-! ### Values -/

namespace Felt

/-- What the bytes of a dump hold of a value. -/
def cut (felt : Felt) : Felt :=
  ⟨felt.value % 2 ^ 256⟩

/-- A felt that is written in 32 bytes is read back modulo `2 ^ 256`. -/
theorem ofBytes_toBytes (felt : Felt) : ofBytes felt.toBytes = felt.cut :=
  congrArg Felt.mk (LittleEndian.toNat_ofNat byteCount felt.value)

/-- Only felts that have 32 bytes are not cut. -/
theorem cut_eq_self_iff {felt : Felt} : felt.cut = felt ↔ felt.value < 2 ^ 256 := by
  obtain ⟨value⟩ := felt
  rw [cut, Felt.mk.injEq]
  exact Nat.mod_eq_iff_lt (by decide)

/-- What is read from 32 bytes is written as these. -/
theorem toBytes_ofBytes {bytes : Bytes} (length : bytes.length = byteCount) :
    (ofBytes bytes).toBytes = bytes :=
  LittleEndian.ofNat_toNat length

/-- How values are written as bytes and read from them. -/
structure CodecRule : Prop where
  length : ∀ felt : Felt, felt.toBytes.length = byteCount
  /-- The bytes are the digits of what they hold of a value, the lowest one first. -/
  digit : ∀ (felt : Felt) (place : Nat), place < byteCount →
    felt.toBytes[place]?.map UInt8.toNat = some (felt.value % 2 ^ 256 / 256 ^ place % 256)
  /-- They are the digits of the value itself: zeros stand behind too few of them, and what
  there is no room for is cut off. -/
  fitted : ∀ felt : Felt,
    felt.toBytes.map UInt8.toNat = (Nat.digits 256 felt.value).takeD byteCount 0
  read : ∀ bytes, (ofBytes bytes).value = Nat.ofDigits 256 (bytes.map UInt8.toNat)
  readsBack : ∀ felt : Felt, ofBytes felt.toBytes = ⟨felt.value % 2 ^ 256⟩
  kept_iff : ∀ felt : Felt, ofBytes felt.toBytes = felt ↔ felt.value < 2 ^ 256
  /-- Among the values that are kept are some that are not below the prime. -/
  unreduced : prime < 2 ^ 256
  writesBack : ∀ bytes, bytes.length = byteCount → (ofBytes bytes).toBytes = bytes

/-- **Values are written with their digits, and read back unreduced.** -/
theorem codecRule : CodecRule where
  length felt := LittleEndian.length_ofNat byteCount felt.value
  digit := by
    intro felt place inside
    have same : felt.value % 2 ^ 256 / 256 ^ place % 256 = felt.value / 256 ^ place % 256 :=
      LittleEndian.digit_mod inside felt.value
    rw [toBytes, LittleEndian.getElem?_ofNat inside, Option.map_some, UInt8.toNat_ofNat', same]
  fitted felt := LittleEndian.map_toNat_ofNat byteCount felt.value
  read := LittleEndian.toNat_eq_ofDigits
  readsBack := ofBytes_toBytes
  kept_iff := by
    intro felt
    rw [ofBytes_toBytes, cut_eq_self_iff]
  unreduced := by decide
  writesBack _ := toBytes_ofBytes

/-- The prime itself is not read back as zero. -/
example : ofBytes (Felt.mk prime).toBytes = ⟨prime⟩ := by decide

end Felt

end HintFuzz
