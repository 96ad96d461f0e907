import HttpService.Text.Numeral

/-!
Contract: a decimal numeral is read back.

Owns: reading the digits of a number below 2^64.

Does not own: signs and fractions.
-/

namespace HttpService.Text

theorem digitsValue_toDigits (value : Nat) : digitsValue (Nat.toDigits 10 value) = value := by
  have readBack := Nat.ofDigitChars_ten_toDigits (n := value)
  rw [Nat.ofDigitChars_eq_foldl] at readBack
  exact readBack

theorem readSize?_of_digits {digits : List Char} (filled : digits ≠ [])
    (decimal : ∀ c ∈ digits, c.isDigit = true) : readSize? digits = sizeValue? digits := by
  have noSign : ∀ rest, digits = '+' :: rest → False := by
    rintro rest rfl
    exact absurd (decimal '+' (by simp)) (by decide)
  unfold readSize?
  split
  · rename_i rest
    exact absurd rfl (noSign rest)
  · rw [if_pos (by simpa [filled] using decimal)]
    simp

theorem readSize?_toString {value : Nat} (small : value < Nat.pow 2 64) :
    readSize? (toString value).toList = some value := by
  rw [Nat.toString_eq_ofList_toDigits, String.toList_ofList,
    readSize?_of_digits Nat.toDigits_ne_nil
      (fun c member => Nat.isDigit_of_mem_toDigits (by decide) (by decide) member),
    sizeValue?_eq, digitsValue_toDigits, if_pos small]

end HttpService.Text
