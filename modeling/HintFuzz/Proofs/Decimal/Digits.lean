import HintFuzz.Decimal.Lexeme
import Mathlib.Data.List.TakeWhile

/-!
# Numbers in decimal

Different numbers have different decimal texts, which are made of digits
(`decimal_injective`), and a number is read off its text (`ofDigits_decimal`).  No zero
leads the text of another number (`exists_decimal_eq`).

A text of digits alone is its own whole part, and a number that fits into 64 bits is never taken for
an infinite one, however it is rounded on the way (`Decimal.exceedsDoubleInSteps_decimal`).
-/

namespace HintFuzz

/-- A number can be read off its decimal text. -/
theorem decimal_injective {left right : Nat} (same : toString left = toString right) :
    left = right := by
  rw [Nat.toString_eq_repr, Nat.toString_eq_repr] at same
  have digits : Nat.toDigits 10 left = Nat.toDigits 10 right := by
    rw [← Nat.toList_repr, ← Nat.toList_repr, same]
  rw [← Nat.ofDigitChars_ten_toDigits (n := left), digits, Nat.ofDigitChars_ten_toDigits]

/-- Decimal texts are made of digits. -/
theorem isDigit_of_mem_decimal {number : Nat} {c : Char} (member : c ∈ (toString number).toList) :
    c.isDigit = true := by
  rw [Nat.toString_eq_repr, Nat.toList_repr] at member
  exact Nat.isDigit_of_mem_toDigits (by decide) (by decide) member

/-! ### Reading -/

/-- The digits of a number are read as this number. -/
theorem ofDigits_decimal (number : Nat) :
    Decimal.ofDigits (toString number).toList = number := by
  rw [Nat.toString_eq_repr, Nat.toList_repr]
  exact Nat.ofDigitChars_ten_toDigits

private theorem digitChar_eq_zero {digit : Nat} (small : digit < 10)
    (zero : digit.digitChar = '0') :
    digit = 0 := by
  revert digit
  decide

private theorem exists_toDigits_eq {number : Nat} (positive : 0 < number) :
    ∃ first rest, Nat.toDigits 10 number = first :: rest ∧ first ≠ '0' := by
  induction number using Nat.strongRecOn with
  | ind number ih =>
      by_cases small : number < 10
      · refine ⟨number.digitChar, [], Nat.toDigits_of_lt_base small, fun zero => ?_⟩
        have := digitChar_eq_zero small zero
        omega
      · obtain ⟨first, rest, digits, nonzero⟩ := ih (number / 10) (by omega) (by omega)
        refine ⟨first, rest ++ [(number % 10).digitChar], ?_, nonzero⟩
        rw [Nat.toDigits_of_base_le (by decide) (by omega), digits, List.cons_append]

/-- A decimal text starts with a digit, and with a zero only if that is all of it. -/
theorem exists_decimal_eq (number : Nat) :
    ∃ first rest, (toString number).toList = first :: rest ∧ first.isDigit = true ∧
      (first = '0' → rest = []) := by
  have digits {first : Char} {rest : List Char} (text : (toString number).toList = first :: rest) :
      first.isDigit = true :=
    isDigit_of_mem_decimal (text ▸ List.mem_cons_self)
  rw [Nat.toString_eq_repr, Nat.toList_repr] at digits ⊢
  rcases Nat.eq_zero_or_pos number with rfl | positive
  · exact ⟨'0', [], Nat.toDigits_zero 10, digits (Nat.toDigits_zero 10), fun _ => rfl⟩
  · obtain ⟨first, rest, text, nonzero⟩ := exists_toDigits_eq positive
    exact ⟨first, rest, text, digits text, fun zero => absurd zero nonzero⟩

/-! ### Sizes -/

namespace Decimal

/-- A text of digits is its own whole part. -/
theorem Lexeme.ofText_digits {digits : List Char} (allDigits : ∀ c ∈ digits, c.isDigit = true) :
    Lexeme.ofText digits = ⟨digits, [], 0⟩ := by
  have other (mark : Char) (noDigit : mark.isDigit = false) : ∀ c ∈ digits, c ≠ mark := by
    rintro c member rfl
    rw [allDigits c member] at noDigit
    cases noDigit
  have kept : digits.filter (fun c => c ≠ '_') = digits :=
    List.filter_eq_self.mpr fun c member => by simp [other '_' rfl c member]
  have mantissa : digits.takeWhile (fun c => c ≠ 'e' && c ≠ 'E') = digits :=
    List.takeWhile_eq_self_iff.mpr fun c member => by simp [other 'e' rfl c member, other 'E' rfl c member]
  have whole : digits.takeWhile (fun c => c ≠ '.') = digits :=
    List.takeWhile_eq_self_iff.mpr fun c member => by simp [other '.' rfl c member]
  have fraction : digits.dropWhile (fun c => c ≠ '.') = [] :=
    List.dropWhile_eq_nil_iff.mpr fun c member => by simp [other '.' rfl c member]
  simp only [Lexeme.ofText, kept, mantissa, whole, fraction, List.drop_length, List.drop_nil]
  rw [List.filter_eq_self.mpr allDigits]
  rfl

private theorem le_foldl_digits (digits : List Char) (value : Nat) :
    value ≤ digits.foldl (fun value c => 10 * value + (c.toNat - 48)) value := by
  induction digits generalizing value with
  | nil => exact Nat.le_refl value
  | cons c rest ih =>
      have later := ih (10 * value + (c.toNat - 48))
      rw [List.foldl_cons]
      omega

/-- All digits are absorbed if their number fits. -/
theorem absorb_eq {digits : List Char} {significand : Nat}
    (fits : digits.foldl (fun value c => 10 * value + (c.toNat - 48)) significand < UInt64.size) :
    absorb significand digits =
      (digits.foldl (fun value c => 10 * value + (c.toNat - 48)) significand, []) := by
  induction digits generalizing significand with
  | nil => rfl
  | cons c rest ih =>
      rw [List.foldl_cons] at fits ⊢
      have below := Nat.lt_of_le_of_lt (le_foldl_digits rest _) fits
      rw [absorb, if_pos below]
      exact ih fits

end Decimal

private theorem Double.nearest_le (value : Nat) : Double.nearest value ≤ 2 * value + 1 := by
  have unit : 1 <<< (Nat.log2 value + 1 - 53) ≤ value + 1 := by
    rw [Nat.one_shiftLeft]
    rcases Nat.eq_zero_or_pos value with rfl | positive
    · decide
    · calc 2 ^ (Nat.log2 value + 1 - 53) ≤ 2 ^ Nat.log2 value := Nat.pow_le_pow_right (by decide) (by omega)
        _ ≤ value := Nat.log2_self_le (by omega)
        _ ≤ value + 1 := Nat.le_succ value
  have whole := Nat.div_mul_le_self value (1 <<< (Nat.log2 value + 1 - 53))
  have rounded : Double.nearest value ≤
      (value / 1 <<< (Nat.log2 value + 1 - 53) + 1) * 1 <<< (Nat.log2 value + 1 - 53) := by
    unfold Double.nearest
    refine Nat.mul_le_mul_right _ ?_
    split
    · exact Nat.le_succ _
    · split
      · exact Nat.le_refl _
      · have := Nat.mod_lt (value / 1 <<< (Nat.log2 value + 1 - 53)) (y := 2) (by decide)
        omega
  rw [Nat.add_mul, Nat.one_mul] at rounded
  omega

/-- A number of 64 bits does not become infinite by rounding. -/
theorem Decimal.exceedsDoubleInSteps_decimal {number : Nat} (fits : number < UInt64.size) :
    (Decimal.Lexeme.ofText (toString number).toList).exceedsDoubleInSteps = false := by
  have absorbed : Decimal.absorb 0 (toString number).toList = (number, []) := by
    rw [Decimal.absorb_eq]
    · exact congrArg (·, []) (ofDigits_decimal number)
    · exact (ofDigits_decimal number).trans_lt fits
  have small : Double.nearest number * Double.nearest 1 < Double.overflow := by
    calc Double.nearest number * Double.nearest 1
        ≤ (2 * number + 1) * Double.nearest 1 := Nat.mul_le_mul_right _ (Double.nearest_le number)
      _ ≤ (2 * UInt64.size + 1) * Double.nearest 1 := Nat.mul_le_mul_right _ (by omega)
      _ < Double.overflow := by decide
  rw [Decimal.Lexeme.ofText_digits fun _ => isDigit_of_mem_decimal]
  simp only [Decimal.Lexeme.exceedsDoubleInSteps, absorbed, Decimal.absorb]
  have exponent : (0 : Int) + (([] : List Char).length : Int) -
      ((([] : List Char).length - ([] : List Char).length : Nat) : Int) = 0 := rfl
  split
  · rfl
  · rw [exponent, if_neg (by decide), decide_eq_false_iff_not]
    exact Nat.not_le.mpr small

end HintFuzz
